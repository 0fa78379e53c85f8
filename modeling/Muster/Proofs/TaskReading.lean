import Muster.Agent.Reply
import Muster.ControlPlane.Body
import Muster.Proofs.InstantReading
/-!
Tasks come back as they were written: a task whose numbers are of the size that their fields allow,
made at a time that a clock shows, reaches the agent unchanged. The numbers of a task are of that
size, because they were read.
-/
namespace Muster

open Json Text Time

/-- The numbers of a task fit the fields that they are written to. -/
structure Task.Fits (task : Task) : Prop where
  priority : bounds64.holds task.priority = true
  exitCode : ∀ code, task.exitCode = some code → bounds32.holds code = true

theorem restores_priority {priority : Int} (hpriority : bounds64.holds priority = true) :
    priorityCodec.Restores priority := by
  have hsize : (UInt64.size : Int) = 18446744073709551616 := rfl
  obtain ⟨hlow, hhigh⟩ := (Bounds.holds_iff _ _).1 hpriority
  simp only [bounds64] at hlow hhigh
  exact Codec.restores_integer "i64" hpriority hlow (by omega)

theorem restores_exitCode {code : Int} (hcode : bounds32.holds code = true) :
    exitCodeCodec.Restores code := by
  have hsize : (UInt64.size : Int) = 18446744073709551616 := rfl
  obtain ⟨hlow, hhigh⟩ := (Bounds.holds_iff _ _).1 hcode
  simp only [bounds32] at hlow hhigh
  exact Codec.restores_integer "i32" hcode (by omega) (by omega)

theorem restores_status (status : TaskStatus) : TaskStatus.codec.Restores status :=
  Codec.restores_choice (TaskStatus.ofText?_text status)

/-- A value that is left out when there is none comes back in any case. -/
theorem Json.Field.restores_omitted {α : Type} {name : String} {codec : Codec α} {slot : Option α}
    (hslot : ∀ a, slot = some a → codec.Restores a ∧ codec.write a ≠ .null) :
    (omittedField name codec).Restores slot := by
  cases slot with
  | none => rfl
  | some a => exact Codec.restores_optional hslot

/-- A task whose numbers fit is restored, if it was made at a time that a clock shows. -/
theorem Task.restores {task : Task} (hfits : Task.Fits task)
    (hregular : task.createdAt.IsRegular) : Task.shape.codec.Restores task := by
  apply Shape.restores
  · decide
  · have htext : ∀ s, Codec.text.Restores s ∧ Codec.text.write s ≠ .null := fun s =>
      ⟨Codec.restores_text s, Value.noConfusion⟩
    refine ⟨Codec.restores_text _, Codec.restores_text _, restores_priority hfits.priority,
      restores_status _, Field.restores_omitted fun s _ => htext s,
      Field.restores_omitted fun s _ => htext s, Field.restores_omitted ?_,
      Field.restores_omitted fun s _ => htext s, Codec.restores_instant hregular, trivial⟩
    intro code hcode
    exact ⟨restores_exitCode (hfits.exitCode code hcode), Value.noConfusion⟩

theorem CreateTaskRequest.priority_holds {request : CreateTaskRequest}
    (hread : CreateTaskRequest.shape.codec.Yields request) :
    bounds64.holds request.priority = true := by
  obtain ⟨row, rfl, -, hpriority, -⟩ := Shape.yield_of_yields hread
  rcases hpriority with hgiven | habsent
  · exact hgiven.holds
  · have hzero := Option.some.inj habsent
    change bounds64.holds row.2.1 = true
    rw [← hzero]
    decide

theorem UpdateTaskRequest.exitCode_holds {request : UpdateTaskRequest}
    (hread : UpdateTaskRequest.shape.codec.Yields request) {code : Int}
    (hcode : request.exitCode = some code) : bounds32.holds code = true := by
  obtain ⟨row, rfl, -, -, -, hexit, -⟩ := Shape.yield_of_yields hread
  have hslot : row.2.2.2.1 = some code := hcode
  rw [hslot] at hexit
  rcases hexit with hgiven | habsent
  · exact hgiven.of_some.holds
  · cases habsent

namespace Agent

open ControlPlane Http

theorem Reply.decode_valueResponse {α : Type} {codec : Codec α} {a : α} (ha : codec.Restores a)
    {status : Nat} (hstatus : isSuccess status = true) :
    Reply.decode codec (Reply.ofResponse (valueResponse status codec a)) = .ok a := by
  have hread := ha.readOctets
  have hbody : (Reply.ofResponse (valueResponse status codec a)).body =
      toUtf8 (codec.writeText a) := rfl
  have hsuccess : isSuccess (Reply.ofResponse (valueResponse status codec a)).status = true :=
    hstatus
  rw [Reply.decode, if_pos hsuccess, hbody, hread]

end Agent

end Muster
