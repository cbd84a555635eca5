import LineagePorts.Operation
import LineagePorts.Proofs.Store.Saving

/-!
# Durability of a store in a file

However writing and renaming fail, the file of a store holds what memory holds. A call answers as it
does over a store in memory, or it fails to save and changes nothing that a later call or another
opening of the file could see.
-/

namespace LineagePorts

namespace Store

/-- A question to a store. -/
inductive Query where
  | entity (id : EntityId)
  | named (qualifiedName typeName : String)
  | between (start finish : EntityId) (startType typeName : String)
  | type (name : String)
  | traverse (start : EntityId) (startType : String) (type : RelationshipType)

inductive Finding where
  | entity (e : Option Entity)
  | relationship (r : Option Relationship)
  | type (t : RelationshipType)

def find (s : Store) : Query → Except Failure Finding
  | .entity id => .ok (.entity (s.entities.get? id))
  | .named qualifiedName typeName => .ok (.entity (s.findByName? qualifiedName typeName))
  | .between start finish startType typeName =>
    (s.relationshipBetween start finish startType typeName).map .relationship
  | .type name => (relationshipType name).map .type
  | .traverse start startType type => (s.traverse start startType type).map .entity

end Store

/-- A call on a store, wherever it is kept. -/
inductive StoreCall where
  | change (call : Store.Call)
  | look (query : Store.Query)

inductive StoreReply where
  | changed (answer : Store.Answer)
  | found (finding : Store.Finding)

def Backend.serve (b : Backend) (fault : Option SaveFault) (stamp : Stamp) (who : Caller) :
    StoreCall → Except Failure StoreReply × Backend
  | .change call =>
    let (answer, next) := b.commit fault fun s => s.perform stamp who call
    (answer.map .changed, next)
  | .look query => ((b.store.find query).map .found, b)

namespace FileStore

/-- The stores that calls lead to from the opening of a file, whatever faults strike them. Between
the calls anything on the disk may change that is not seen at the path of the store. -/
inductive Life (path : String) : FileStore → Prop where
  | opened {disk : FileSystem} {f : FileStore} (opening : open? disk path = .ok f) : Life path f
  | served {f f' : FileStore} {fault : Option SaveFault} {stamp : Stamp} {who : Caller}
      {call : StoreCall} {reply : Except Failure StoreReply} (life : Life path f)
      (answered : (Backend.file f).serve fault stamp who call = (reply, .file f')) : Life path f'
  | elsewhere {f : FileStore} {disk : FileSystem} (life : Life path f)
      (unseen : disk.read path = f.disk.read path) : Life path { f with disk := disk }

/-- The file of the store, which may be missing, holds what memory holds. -/
def Mirrors (f : FileStore) : Prop :=
  ∃ x, load f.disk f.path = .ok x ∧ Store.ofSnapshot x = f.store

/-- What is kept up by a store in a file, set beside the same store in memory. -/
structure Durable (f : FileStore) : Prop where
  mirrors : f.Mirrors
  looks : ∀ fault stamp who query, (Backend.file f).serve fault stamp who (.look query) =
    (((Backend.memory f.store).serve none stamp who (.look query)).1, .file f)
  refused : ∀ fault {stamp who call e b},
    (Backend.memory f.store).serve none stamp who (.change call) = (.error e, b) →
      (Backend.file f).serve fault stamp who (.change call) = (.error e, .file f)
  saved : ∀ {fault stamp who call reply next}, Saves f.disk fault f.path →
    (Backend.memory f.store).serve none stamp who (.change call) = (.ok reply, .memory next) →
      ∃ disk, (Backend.file f).serve fault stamp who (.change call) =
          (.ok reply, .file { f with store := next, disk := disk }) ∧
        disk.read f.path = .ok next.snapshot.fileText
  unsaved : ∀ {fault stamp who call reply b}, ¬ Saves f.disk fault f.path →
    (Backend.memory f.store).serve none stamp who (.change call) = (.ok reply, b) →
      ∃ cause disk, (Backend.file f).serve fault stamp who (.change call) =
          (.error (.server cause), .file { f with disk := disk }) ∧
        disk.read f.path = f.disk.read f.path
  reopens : checkParent f.disk f.path = .ok () → open? f.disk f.path = .ok f

section Commit

variable {α : Type} {f : FileStore} (change : Store → Except Failure (α × Store)) {a : α}
  {next : Store}

theorem commit_refused {e : Failure} (refused : change f.store = .error e)
    (fault : Option SaveFault) : f.commit fault change = (.error e, f) := by
  rw [commit, refused]

theorem commit_saved {fault : Option SaveFault} (saves : Saves f.disk fault f.path)
    (made : change f.store = .ok (a, next)) :
    ∃ disk, f.commit fault change = (.ok a, { f with store := next, disk := disk }) ∧
      disk.read f.path = .ok next.snapshot.fileText := by
  obtain ⟨disk, saved, readBack⟩ := save_of_saves saves next.snapshot.fileText
  refine ⟨disk, ?_, readBack⟩
  simp only [commit, made, saved]

theorem commit_unsaved {fault : Option SaveFault} (apart : temporaryPath f.path ≠ f.path)
    (fails : ¬ Saves f.disk fault f.path) (made : change f.store = .ok (a, next)) :
    ∃ cause disk, f.commit fault change = (.error (.server cause), { f with disk := disk }) ∧
      disk.read f.path = f.disk.read f.path := by
  obtain ⟨cause, disk, failed, unseen⟩ := save_of_not_saves apart fails next.snapshot.fileText
  refine ⟨cause, disk, ?_, unseen⟩
  simp only [commit, made, failed]

end Commit

theorem serve_change (f : FileStore) (fault : Option SaveFault) (stamp : Stamp) (who : Caller)
    (call : Store.Call) :
    (Backend.file f).serve fault stamp who (.change call) =
      ((f.commit fault fun s => s.perform stamp who call).1.map .changed,
        .file (f.commit fault fun s => s.perform stamp who call).2) := rfl

theorem perform_of_serve_ok {s : Store} {stamp : Stamp} {who : Caller} {call : Store.Call}
    {reply : StoreReply} {b : Backend}
    (answered : (Backend.memory s).serve none stamp who (.change call) = (.ok reply, b)) :
    ∃ answer next, s.perform stamp who call = .ok (answer, next) ∧ reply = .changed answer ∧
      b = .memory next := by
  cases made : s.perform stamp who call with
  | error e =>
    simp only [Backend.serve, Backend.commit, made] at answered
    cases answered
  | ok result =>
    obtain ⟨answer, next⟩ := result
    simp only [Backend.serve, Backend.commit, made] at answered
    obtain ⟨sameReply, rfl⟩ := Prod.mk.inj answered
    exact ⟨answer, next, rfl, (Except.ok.inj sameReply).symm, rfl⟩

theorem perform_of_serve_error {s : Store} {stamp : Stamp} {who : Caller} {call : Store.Call}
    {e : Failure} {b : Backend}
    (answered : (Backend.memory s).serve none stamp who (.change call) = (.error e, b)) :
    s.perform stamp who call = .error e := by
  cases made : s.perform stamp who call with
  | error e' =>
    simp only [Backend.serve, Backend.commit, made] at answered
    obtain rfl := Except.error.inj (Prod.mk.inj answered).1
    rfl
  | ok result =>
    simp only [Backend.serve, Backend.commit, made] at answered
    cases answered

/-- What is loaded depends on what is read. -/
theorem load_congr {a b : FileSystem} {path : String} (same : b.read path = a.read path) :
    load b path = load a path := by
  rw [load, load, same]

theorem mirrors_of_opening {disk : FileSystem} {path : String} {f : FileStore}
    (opening : open? disk path = .ok f) : f.path = path ∧ f.Mirrors := by
  rw [open?] at opening
  split at opening
  · cases opening
  · split at opening
    · cases opening
    · rename_i x loaded
      obtain rfl := Except.ok.inj opening
      exact ⟨rfl, x, loaded, rfl⟩

theorem Mirrors.of_read {f g : FileStore} (mirrors : f.Mirrors) (samePath : g.path = f.path)
    (sameStore : g.store = f.store) (unseen : g.disk.read f.path = f.disk.read f.path) :
    g.Mirrors := by
  obtain ⟨x, loaded, same⟩ := mirrors
  refine ⟨x, ?_, same.trans sameStore.symm⟩
  rw [samePath, load_congr unseen, loaded]

theorem mirrors_of_saved {f : FileStore} (keyed : f.store.Keyed)
    (saved : f.disk.read f.path = .ok f.store.snapshot.fileText) : f.Mirrors := by
  refine ⟨f.store.snapshot, ?_, Store.ofSnapshot_snapshot keyed⟩
  rw [load, saved]
  dsimp only
  rw [Snapshot.ofFileText?_fileText]

theorem Mirrors.keyed {f : FileStore} (mirrors : f.Mirrors) : f.store.Keyed := by
  obtain ⟨x, _, same⟩ := mirrors
  rw [← same]
  exact Store.keyed_ofSnapshot x

/-- Whatever a call does, it leaves the path, and file and memory in step. -/
theorem Mirrors.commit {f : FileStore} (mirrors : f.Mirrors)
    (apart : temporaryPath f.path ≠ f.path) (fault : Option SaveFault) (stamp : Stamp)
    (who : Caller) (call : Store.Call) :
    (f.commit fault fun s => s.perform stamp who call).2.path = f.path ∧
      (f.commit fault fun s => s.perform stamp who call).2.Mirrors := by
  cases made : f.store.perform stamp who call with
  | error e =>
    rw [commit_refused (fun s => s.perform stamp who call) made fault]
    exact ⟨rfl, mirrors⟩
  | ok result =>
    obtain ⟨answer, next⟩ := result
    by_cases saves : Saves f.disk fault f.path
    · obtain ⟨disk, done, readBack⟩ :=
        commit_saved (fun s => s.perform stamp who call) saves made
      have keyed := mirrors.keyed.change (Store.perform_eq_ok_iff.mp made)
      rw [done]
      exact ⟨rfl, mirrors_of_saved keyed readBack⟩
    · obtain ⟨cause, disk, failed, unseen⟩ :=
        commit_unsaved (fun s => s.perform stamp who call) apart saves made
      rw [failed]
      exact ⟨rfl, mirrors.of_read rfl rfl unseen⟩

theorem Mirrors.serve {f f' : FileStore} (mirrors : f.Mirrors)
    (apart : temporaryPath f.path ≠ f.path) {fault : Option SaveFault} {stamp : Stamp}
    {who : Caller} {call : StoreCall} {reply : Except Failure StoreReply}
    (answered : (Backend.file f).serve fault stamp who call = (reply, .file f')) :
    f'.path = f.path ∧ f'.Mirrors := by
  cases call with
  | change call =>
    rw [serve_change] at answered
    obtain rfl := Backend.file.inj (Prod.mk.inj answered).2
    exact mirrors.commit apart fault stamp who call
  | look query =>
    obtain rfl := Backend.file.inj (Prod.mk.inj answered).2
    exact ⟨rfl, mirrors⟩

theorem Life.mirrors {path : String} {f : FileStore} (apart : temporaryPath path ≠ path)
    (life : Life path f) : f.path = path ∧ f.Mirrors := by
  induction life with
  | opened opening => exact mirrors_of_opening opening
  | served life answered ih =>
    obtain ⟨rfl, mirrors⟩ := ih
    exact mirrors.serve apart answered
  | elsewhere life unseen ih =>
    obtain ⟨rfl, mirrors⟩ := ih
    exact ⟨rfl, mirrors.of_read rfl rfl unseen⟩

theorem open?_of_mirrors {f : FileStore} (mirrors : f.Mirrors)
    (parent : checkParent f.disk f.path = .ok ()) : open? f.disk f.path = .ok f := by
  obtain ⟨x, loaded, same⟩ := mirrors
  rw [open?, parent]
  dsimp only
  rw [loaded]
  dsimp only
  rw [same]

theorem durable_of_mirrors {f : FileStore} (mirrors : f.Mirrors)
    (apart : temporaryPath f.path ≠ f.path) : f.Durable where
  mirrors := mirrors
  looks fault stamp who query := rfl
  refused fault {stamp who call e b} answered := by
    have made := perform_of_serve_error answered
    rw [serve_change, commit_refused (fun s => s.perform stamp who call) made fault]
    rfl
  saved {fault stamp who call reply next} saves answered := by
    obtain ⟨answer, next', made, rfl, same⟩ := perform_of_serve_ok answered
    obtain rfl := Backend.memory.inj same
    obtain ⟨disk, done, readBack⟩ := commit_saved (fun s => s.perform stamp who call) saves made
    refine ⟨disk, ?_, readBack⟩
    rw [serve_change, done]
    rfl
  unsaved {fault stamp who call reply b} fails answered := by
    obtain ⟨answer, next, made, rfl, _⟩ := perform_of_serve_ok answered
    obtain ⟨cause, disk, failed, unseen⟩ :=
      commit_unsaved (fun s => s.perform stamp who call) apart fails made
    refine ⟨cause, disk, ?_, unseen⟩
    rw [serve_change, failed]
    rfl
  reopens parent := open?_of_mirrors mirrors parent

/-- The store after calls that change it, each with what the disk does while it is saved. -/
def run (f : FileStore) (calls : List (Option SaveFault × Issued)) : FileStore :=
  calls.foldl (fun f c =>
    (f.commit c.1 fun s => s.perform c.2.stamp c.2.caller c.2.call).2) f

theorem Life.run {path : String} {f : FileStore} (life : Life path f)
    (calls : List (Option SaveFault × Issued)) : Life path (f.run calls) := by
  induction calls generalizing f with
  | nil => exact life
  | cons c calls ih =>
    have answered := serve_change f c.1 c.2.stamp c.2.caller c.2.call
    exact ih (life.served answered)

def sampleStart : FileStore := ⟨.empty, "store.json", .only "home"⟩

/-- A process, and an alias that is first written by half, then not renamed into place, and saved
at last. -/
def sampleCalls : List (Option SaveFault × Issued) :=
  let half : SaveFault := .write (.device "No space left on device (os error 28)") (some "[")
  (Store.sampleRun.take 1).map (none, ·) ++
    ((Store.sampleRun.drop 1).take 1).flatMap fun c =>
      [(some half, c), (some (.replace .missing), c), (none, c)]

/-- Whatever calls are made on a store in a file after it was opened, and however writing and
renaming fail, memory and file stay in step: each call does as it does over a store in memory or
fails to be saved and is not seen, and another opening gives the same store. -/
theorem memory_and_file_in_step {path : String} {f : FileStore}
    (apart : temporaryPath path ≠ path) (life : Life path f) : f.path = path ∧ f.Durable := by
  obtain ⟨rfl, mirrors⟩ := life.mirrors apart
  exact ⟨rfl, durable_of_mirrors mirrors apart⟩

theorem memory_and_file_in_step_sample :
    temporaryPath "store.json" ≠ "store.json" ∧
      Life "store.json" (sampleStart.run sampleCalls) ∧
      (sampleStart.run sampleCalls).store = Store.empty.run (Store.sampleRun.take 2) ∧
      (sampleStart.run sampleCalls).Durable := by
  have apart : temporaryPath "store.json" ≠ "store.json" := by decide +kernel
  have opening : open? (.only "home") "store.json" = .ok sampleStart := by decide +kernel
  have kept : (sampleStart.run sampleCalls).store = Store.empty.run (Store.sampleRun.take 2) := by
    decide +kernel
  have life := (Life.opened opening).run sampleCalls
  exact ⟨apart, life, kept, (memory_and_file_in_step apart life).2⟩

end FileStore

end LineagePorts
