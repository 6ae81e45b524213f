import VmControl.Gateway.Call
import VmControl.Proofs.Store.Confinement

/-!
# Whom the gateway turns away

The name of a machine arrives as a part of a path and may spell any characters. A request that can
be read in full but names a machine that has no records is answered at once (`GatewayCall.Answers`):
the store is not looked at, no monitor is asked and the tasks stay as they are
(`GatewayCall.begin_refused`).

Together with the operations of the store itself this keeps everything in the directory of the
records, whatever machines and disks are called (`Records.never_left`).
-/

namespace VmControl

namespace HttpRequest

/-- A request brings the body that it needs: only one that starts something needs any. -/
def HasBody {α : Type} (q : HttpRequest) (decoder : Decoder α) : Prop :=
  q.method = "POST" → ∃ a, GatewayCall.body decoder q = .ok a

theorem hasBody_of_ne {α : Type} {q : HttpRequest} {decoder : Decoder α}
    (other : q.method ≠ "POST") :
    q.HasBody decoder := fun post => absurd post other

/-- A request is about a machine: it has a route of the machine, and its path and its body can be
read. -/
inductive IsAbout (q : HttpRequest) (vm : String) : Prop
  | migration {spelt : String}
      (route : (Target.path? q.target).bind Route.find? = some (.migration spelt))
      (machine : Percent.decode? spelt = some vm) (body : q.HasBody MoveRequest.ofDraft)
  | copying {spelt speltDisk disk : String}
      (route : (Target.path? q.target).bind Route.find? = some (.copying spelt speltDisk))
      (machine : Percent.decode? spelt = some vm) (path : Percent.decode? speltDisk = some disk)
      (body : q.HasBody CopyRequest.ofDraft)

/-- The methods that the routes of a machine take. A head is asked for where a report can be. -/
def machineMethods : List String := ["GET", "HEAD", "POST", "DELETE"]

/-- Who asks for the head only asks about the same machine. -/
theorem IsAbout.get {q : HttpRequest} {vm : String} (about : q.IsAbout vm) :
    IsAbout { q with method := "GET" } vm := by
  have other : "GET" ≠ "POST" := by decide
  cases about with
  | migration route machine => exact .migration route machine (hasBody_of_ne other)
  | copying route machine path => exact .copying route machine path (hasBody_of_ne other)

end HttpRequest

namespace GatewayCall

variable {p : Pool} {q : HttpRequest} {vm : String} {e : OptionError}

/-- A request is answered with a status at once: nothing is asked of the store or of a monitor, and
the tasks stay as they are. -/
def Answers (p : Pool) (status : Nat) (program : FileProgram GatewayStep) : Prop :=
  ∃ response : Response, program = .done (respond p response) ∧ response.status = status

theorem answers_about (refused : checkVmName vm = .error e) (next : FileProgram GatewayStep) :
    Answers p 400 (about p vm next) := by
  obtain ⟨e, answered, status⟩ := checkVm_refused p vm next fun _ ok =>
    nomatch refused.symm.trans ok
  exact ⟨.ofError e, answered, status⟩

theorem answers_withBody {α : Type} {decoder : Decoder α} {next : α → FileProgram GatewayStep}
    {status : Nat} (body : ∃ a, body decoder q = .ok a) (answers : ∀ a, Answers p status (next a)) :
    Answers p status (withBody p q decoder next) := by
  obtain ⟨a, read⟩ := body
  rw [withBody, read]
  exact answers a

/-- What a route of a machine takes, apart from what asks for the head only. -/
def IsTaken (method : String) : Prop := method = "GET" ∨ method = "POST" ∨ method = "DELETE"

theorem takes_migration_iff {spelt method : String} :
    takes (.migration spelt) method = true ↔ IsTaken method := by simp [takes, IsTaken]

theorem takes_copying_iff {spelt disk method : String} :
    takes (.copying spelt disk) method = true ↔ IsTaken method := by simp [takes, IsTaken]

theorem onMigration_refused (refused : checkVmName vm = .error e) (taken : IsTaken q.method)
    (body : q.HasBody MoveRequest.ofDraft) : Answers p 400 (onMigration p q vm) := by
  unfold onMigration
  -- a body is looked at before the name is, so it has to be one that can be read
  split
  · exact answers_about refused _
  · next post => exact answers_withBody (body post) fun _ => answers_about refused _
  · exact answers_about refused _
  · next get post delete => exact absurd taken (not_or.mpr ⟨get, not_or.mpr ⟨post, delete⟩⟩)

theorem onCopying_refused {disk : String} (refused : checkVmName vm = .error e)
    (taken : IsTaken q.method) (body : q.HasBody CopyRequest.ofDraft) :
    Answers p 400 (onCopying p q vm disk) := by
  unfold onCopying
  split
  · exact answers_about refused _
  · next post => exact answers_withBody (body post) fun _ => answers_about refused _
  · exact answers_about refused _
  · next get post delete => exact absurd taken (not_or.mpr ⟨get, not_or.mpr ⟨post, delete⟩⟩)

theorem dispatch_refused (about : q.IsAbout vm) (refused : checkVmName vm = .error e)
    (taken : IsTaken q.method) : Answers p 400 (dispatch p q) := by
  rw [dispatch]
  cases about with
  | migration route machine body =>
    simp only [route, if_pos (takes_migration_iff.mpr taken), machine]
    exact onMigration_refused refused taken body
  | copying route machine path body =>
    simp only [route, if_pos (takes_copying_iff.mpr taken), machine, path]
    exact onCopying_refused refused taken body

theorem dispatch_untaken (about : q.IsAbout vm) (untaken : ¬ IsTaken q.method) :
    Answers p 405 (dispatch p q) := by
  rw [dispatch]
  cases about with
  | migration route =>
    simp only [route, if_neg (mt takes_migration_iff.mp untaken)]
    exact ⟨.bare 405, rfl, rfl⟩
  | copying route =>
    simp only [route, if_neg (mt takes_copying_iff.mp untaken)]
    exact ⟨.bare 405, rfl, rfl⟩

/-- A request about a machine whose name cannot be used is answered at once. -/
theorem begin_refused (about : q.IsAbout vm) (refused : checkVmName vm = .error e) :
    Answers p (if q.method ∈ HttpRequest.machineMethods then 400 else 405) (begin p q) := by
  have listed : q.method ∈ HttpRequest.machineMethods ↔ q.method = "HEAD" ∨ IsTaken q.method := by
    simp only [HttpRequest.machineMethods, List.mem_cons, List.not_mem_nil, or_false, IsTaken]
    exact or_left_comm
  rw [begin]
  by_cases head : q.method = "HEAD"
  · obtain ⟨response, answered, status⟩ := dispatch_refused (p := p) about.get refused (Or.inl rfl)
    rw [if_pos head, if_pos (listed.mpr (Or.inl head)), answered]
    exact ⟨response.withoutBody, rfl, status⟩
  · rw [if_neg head]
    by_cases taken : IsTaken q.method
    · rw [if_pos (listed.mpr (Or.inr taken))]
      exact dispatch_refused about refused taken
    · rw [if_neg (mt listed.mp (not_or.mpr ⟨head, taken⟩))]
      exact dispatch_untaken about taken

end GatewayCall

/-- The directory of the records is never left. An operation of the store is refused for the name of
the machine before it asks for anything, or all that it may ever ask for are the directory and plain
entries of it. A request to a route of a machine that has no records for its name is answered at
once. -/
theorem Records.never_left (r : Records) (vm disk : String) :
    (∀ stat, r.Confined vm (r.saveMigration vm stat)) ∧ r.Confined vm (r.loadMigration vm) ∧
    (∀ stat, r.Confined vm (r.saveCopying vm stat)) ∧
    r.Confined vm (r.loadCopying vm disk) ∧
    ∀ (p : Pool) (q : HttpRequest) (e : OptionError), q.IsAbout vm → checkVmName vm = .error e →
      GatewayCall.Answers p (if q.method ∈ HttpRequest.machineMethods then 400 else 405)
        (GatewayCall.begin p q) :=
  ⟨fun stat => r.confined_save (.migration vm) stat.toJson, r.confined_load (.migration vm) _,
    fun stat => r.confined_save (.copying vm stat.disk) stat.toJson,
      r.confined_load (.copying vm disk) _,
    fun _ _ _ about refused => GatewayCall.begin_refused about refused⟩

namespace Sample

/-- A request that spells a way out of the directory. -/
def wayOut : HttpRequest := ⟨"DELETE", "/v1/vms/..%2Fx/migration", none, ""⟩

theorem wayOut_refused : wayOut.IsAbout "../x" ∧
    (∃ e, checkVmName "../x" = .error e) ∧
    GatewayCall.Answers (.new .default) 400 (GatewayCall.begin (.new .default) wayOut) ∧
    (Records.mk "/var/lib").loadMigration "../x" =
      .done
        (.error
          (.invalidOptions (.option "vm_name" "must not contain path separators or NUL"))) := by
  have route : (Target.path? wayOut.target).bind Route.find? = some (.migration "..%2Fx") := by
    decide +kernel
  have about : wayOut.IsAbout "../x" :=
    .migration route (by decide +kernel) (HttpRequest.hasBody_of_ne (by decide))
  have refused : checkVmName "../x" =
      .error (.option "vm_name" "must not contain path separators or NUL") := by decide +kernel
  obtain ⟨-, -, -, -, answered⟩ := Records.never_left ⟨"/var/lib"⟩ "../x" "/dev/vg/a"
  exact ⟨about, ⟨_, refused⟩, answered _ _ _ about refused, rfl⟩

end Sample

end VmControl
