import LineagePorts.Proofs.Toml.Document

/-!
# The tables of written TOML documents

What the statements of a written document make of its tables. Every header opens a table at the end
of the table that its path leads to, so the document around the open table stays as it is while
lines are added.
-/

namespace LineagePorts.Toml

/-- No node stands under the key. -/
def Lacks (es : Entries) (key : String) : Prop := ∀ e ∈ es, e.1 ≠ key

section Entries

variable {es : Entries} {key : String} (absent : Lacks es key)

include absent

theorem find?_of_lacks : Entries.find? es key = none := by
  have unnamed : List.find? (fun e => decide (e.1 = key)) es = none :=
    List.find?_eq_none.mpr fun e mem => by simpa using absent e mem
  rw [Entries.find?, unnamed]
  rfl

theorem find?_last (n : Node) : Entries.find? (es ++ [(key, n)]) key = some n := by
  have unnamed : List.find? (fun e => decide (e.1 = key)) es = none :=
    List.find?_eq_none.mpr fun e mem => by simpa using absent e mem
  simp [Entries.find?, List.find?_append, unnamed]

theorem replace_last (n m : Node) :
    Entries.replace (es ++ [(key, n)]) key m = es ++ [(key, m)] := by
  have kept : es.map (fun e => if e.1 = key then (key, m) else e) = es.map id :=
    List.map_congr_left fun e mem => if_neg (absent e mem)
  simp [Entries.replace, kept]

end Entries

theorem alter_append (byKey : Bool) (change : Origin → Entries → Option Entries)
    (path more : List String) (origin : Origin) (es : Entries) :
    Entries.alter byKey change origin (path ++ more) es =
      Entries.alter byKey (fun origin es => Entries.alter byKey change origin more es)
        origin path es := by
  induction path generalizing origin es with
  | nil => rw [List.nil_append, Entries.alter]
  | cons key path ih =>
    rw [List.cons_append, Entries.alter, Entries.alter]
    simp only [ih]

/-- The path leads to a table, around which the document stays as `fill` says. -/
def Opens (path : List String) (origin : Origin) (fill : Entries → Entries) : Prop :=
  ∀ (change : Origin → Entries → Option Entries) (inner : Entries),
    Entries.alter false change .explicit path (fill inner) = (change origin inner).map fill

theorem opens_root : Opens [] .explicit id := by
  intro change inner
  rw [Entries.alter, Option.map_id]
  rfl

section Open

variable {path : List String} {origin : Origin} {fill : Entries → Entries}
  (opens : Opens path origin fill) {es : Entries} {key : String} (absent : Lacks es key)

include opens absent

/-- The last entry of an open table may be a table itself. -/
theorem Opens.table (inside : Origin) :
    Opens (path ++ [key]) inside fun inner => fill (es ++ [(key, .table inside inner)]) := by
  intro change inner
  rw [alter_append, opens, Entries.alter, find?_last absent]
  cases changed : change inside inner <;> simp [Entries.alter, changed, replace_last absent]

/-- So may be the last one of a list of tables. -/
theorem Opens.item (before : List Entries) :
    Opens (path ++ [key]) .explicit fun inner => fill (es ++ [(key, .tables (inner :: before))]) := by
  intro change inner
  rw [alter_append, opens, Entries.alter, find?_last absent]
  cases changed : change .explicit inner <;> simp [Entries.alter, changed, replace_last absent]

theorem add_table (current : List String) :
    Document.add ⟨fill es, current⟩ (.table path key) =
      some ⟨fill (es ++ [(key, .table .explicit [])]), path ++ [key]⟩ := by
  rw [Document.add, opens, Entries.addTable, find?_of_lacks absent]
  rfl

/-- A table on the way that is not there yet is made. -/
theorem add_table_below (current : List String) (below : String) :
    Document.add ⟨fill es, current⟩ (.table (path ++ [key]) below) =
      some ⟨fill (es ++ [(key, .table .implied [(below, .table .explicit [])])]),
        path ++ [key] ++ [below]⟩ := by
  rw [Document.add, alter_append, opens, Entries.alter, find?_of_lacks absent]
  rfl

theorem add_first_item (current : List String) :
    Document.add ⟨fill es, current⟩ (.item path key) =
      some ⟨fill (es ++ [(key, .tables [[]])]), path ++ [key]⟩ := by
  rw [Document.add, opens, Entries.addItem, find?_of_lacks absent]
  rfl

theorem add_next_item (current : List String) (items : List Entries) :
    Document.add ⟨fill (es ++ [(key, .tables items)]), current⟩ (.item path key) =
      some ⟨fill (es ++ [(key, .tables ([] :: items))]), path ++ [key]⟩ := by
  rw [Document.add, opens, Entries.addItem, find?_last absent]
  simp [replace_last absent]

end Open

/-- The entry that a line makes. -/
def lineEntry (line : String × Inline) : String × Node := (line.1, .value line.2.toData)

section Lines

variable {path : List String} {origin : Origin} {fill : Entries → Entries}
  (opens : Opens path origin fill) (header : origin ≠ .dotted)

include opens header

theorem add_line {es : Entries} {line : String × Inline} (absent : Lacks es line.1) :
    Document.add ⟨fill es, path⟩ (lineStatement line) =
      some ⟨fill (es ++ [lineEntry line]), path⟩ := by
  have added : Entries.addValue [] line.1 line.2.toData origin es =
      some (es ++ [lineEntry line]) := by
    simp [Entries.addValue, Entries.alter, header, find?_of_lacks absent, lineEntry]
  rw [lineStatement, Document.add, opens, added]
  rfl

/-- Lines with different keys that the open table lacks are added to it in order. -/
theorem add_lines {es : Entries} {lines : List (String × Inline)}
    (distinct : (lines.map Prod.fst).Nodup) (absent : ∀ line ∈ lines, Lacks es line.1) :
    (lines.map lineStatement).foldlM Document.add ⟨fill es, path⟩ =
      some ⟨fill (es ++ lines.map lineEntry), path⟩ := by
  induction lines generalizing es with
  | nil => simp
  | cons line lines ih =>
    obtain ⟨first, later⟩ := List.forall_mem_cons.mp absent
    rw [List.map_cons, List.nodup_cons] at distinct
    have others : ∀ next ∈ lines, Lacks (es ++ [lineEntry line]) next.1 := by
      intro next mem e known same
      rcases List.mem_append.mp known with old | new
      · exact later next mem e old same
      · rw [List.mem_singleton.mp new] at same
        exact distinct.1 (List.mem_map.mpr ⟨next, mem, same.symm⟩)
    rw [List.map_cons, List.foldlM_cons, add_line opens header first]
    simpa using ih distinct.2 others

end Lines

theorem lacks_nil (key : String) : Lacks [] key := by
  intro e mem
  cases mem

/-- A new table with its lines. -/
theorem add_section {path : List String} {origin : Origin} {fill : Entries → Entries}
    (opens : Opens path origin fill) {es : Entries} {key : String} (absent : Lacks es key)
    {lines : List (String × Inline)} (distinct : (lines.map Prod.fst).Nodup)
    (current : List String) :
    (Section.statements ⟨.table (path ++ [key]), lines⟩).foldlM Document.add ⟨fill es, current⟩ =
      some ⟨fill (es ++ [(key, .table .explicit (lines.map lineEntry))]), path ++ [key]⟩ := by
  have open_table := opens.table absent .explicit
  have added := add_lines open_table (by decide) distinct fun line _ => lacks_nil line.1
  have header : Header.statement (.table (path ++ [key])) = .table path key := by
    simp [Header.statement]
  rw [Section.statements, header, List.foldlM_cons, add_table opens absent]
  exact added

/-- A new table inside a table that only its path makes. -/
theorem add_section_below {path : List String} {origin : Origin} {fill : Entries → Entries}
    (opens : Opens path origin fill) {es : Entries} {key : String} (absent : Lacks es key)
    (below : String) {lines : List (String × Inline)} (distinct : (lines.map Prod.fst).Nodup)
    (current : List String) :
    (Section.statements ⟨.table (path ++ [key] ++ [below]), lines⟩).foldlM Document.add
        ⟨fill es, current⟩ =
      some ⟨fill (es ++ [(key, .table .implied
        [(below, .table .explicit (lines.map lineEntry))])]), path ++ [key] ++ [below]⟩ := by
  have open_table := (opens.table absent .implied).table (lacks_nil below) .explicit
  have added := add_lines open_table (by decide) distinct fun line _ => lacks_nil line.1
  have header : Header.statement (.table (path ++ [key] ++ [below])) =
      .table (path ++ [key]) below := by
    simp [Header.statement]
  rw [Section.statements, header, List.foldlM_cons, add_table_below opens absent]
  exact added

theorem lacks_lines {lines : List (String × Inline)} {key : String}
    (absent : key ∉ lines.map Prod.fst) : Lacks (lines.map lineEntry) key := by
  rintro e mem rfl
  obtain ⟨line, known, rfl⟩ := List.mem_map.mp mem
  exact absent (List.mem_map_of_mem known)

section Items

variable {path : List String} {origin : Origin} {fill : Entries → Entries}
  (opens : Opens path origin fill) {es : Entries} {key : String} (absent : Lacks es key)

include opens absent

theorem add_item {before : List Entries} {lines : List (String × Inline)}
    (distinct : (lines.map Prod.fst).Nodup) {d : Document}
    (header : d.add (.item path key) =
      some ⟨fill (es ++ [(key, .tables ([] :: before))]), path ++ [key]⟩) :
    (Section.statements ⟨.item (path ++ [key]), lines⟩).foldlM Document.add d =
      some ⟨fill (es ++ [(key, .tables (lines.map lineEntry :: before))]), path ++ [key]⟩ := by
  have added := add_lines (opens.item absent before) (by decide) distinct fun line _ =>
    lacks_nil line.1
  have statement : Header.statement (.item (path ++ [key])) = .item path key := by
    simp [Header.statement]
  rw [Section.statements, statement, List.foldlM_cons, header]
  exact added

theorem add_more_items {tables : List (List (String × Inline))}
    (distinct : ∀ lines ∈ tables, (lines.map Prod.fst).Nodup) (before : List Entries) :
    (tables.flatMap fun lines => Section.statements ⟨.item (path ++ [key]), lines⟩).foldlM
        Document.add ⟨fill (es ++ [(key, .tables before)]), path ++ [key]⟩ =
      some ⟨fill (es ++ [(key, .tables ((tables.map (·.map lineEntry)).reverse ++ before))]),
        path ++ [key]⟩ := by
  induction tables generalizing before with
  | nil => rfl
  | cons lines tables ih =>
    obtain ⟨first, later⟩ := List.forall_mem_cons.mp distinct
    have added := add_item opens absent first (add_next_item opens absent (path ++ [key]) before)
    have more := ih later (lines.map lineEntry :: before)
    rw [List.flatMap_cons, List.foldlM_append, added]
    simpa using more

/-- A list of tables, each with its lines. -/
theorem add_items {lines : List (String × Inline)} {tables : List (List (String × Inline))}
    (distinct : ∀ ls ∈ lines :: tables, (ls.map Prod.fst).Nodup) (current : List String) :
    ((lines :: tables).flatMap fun ls => Section.statements ⟨.item (path ++ [key]), ls⟩).foldlM
        Document.add ⟨fill es, current⟩ =
      some ⟨fill (es ++ [(key, .tables ((lines :: tables).map (·.map lineEntry)).reverse)]),
        path ++ [key]⟩ := by
  obtain ⟨first, later⟩ := List.forall_mem_cons.mp distinct
  have added := add_item opens absent first (add_first_item opens absent current)
  have more := add_more_items opens absent later [lines.map lineEntry]
  rw [List.flatMap_cons, List.foldlM_append, added]
  simpa using more

end Items

section Fields

/-- The field that a line is read as. -/
def lineField (line : String × Inline) : String × Data := (line.1, line.2.toData)

theorem fieldsOf_eq_map (es : Entries) : fieldsOf es = es.map fun e => (e.1, e.2.toData) := by
  induction es with
  | nil => rfl
  | cons e es ih =>
    obtain ⟨key, n⟩ := e
    rw [fieldsOf, ih, fieldOf, List.map_cons]

theorem recordsOf_eq_map (tables : List Entries) :
    recordsOf tables = tables.map fun es => .record (fieldsOf es) := by
  induction tables with
  | nil => rfl
  | cons es tables ih => rw [recordsOf, ih, List.map_cons]

theorem fieldsOf_append (es fs : Entries) : fieldsOf (es ++ fs) = fieldsOf es ++ fieldsOf fs := by
  simp [fieldsOf_eq_map]

theorem fieldsOf_lines (lines : List (String × Inline)) :
    fieldsOf (lines.map lineEntry) = lines.map lineField := by
  simp [fieldsOf_eq_map, lineEntry, lineField, Node.toData]

theorem toData_tables (tables : List (List (String × Inline))) :
    (Node.tables (tables.map (·.map lineEntry)).reverse).toData =
      .list (tables.map fun lines => .record (lines.map lineField)) := by
  simp [Node.toData, recordsOf_eq_map, fieldsOf_lines]

end Fields

end LineagePorts.Toml
