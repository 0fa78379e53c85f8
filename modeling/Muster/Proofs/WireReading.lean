import Muster.Proofs.TaskReading
import Muster.Wire.Registration
/-!
Everything that goes over the wire is read back as it was written, octet by octet: tags, what agents
register with and are answered, error bodies, tasks, and the requests that create and update them.
Only a time that no clock shows comes back as the one that a clock shows in its place.
-/
namespace Muster

open Json Text Time

/-- The second value is read from the octets that are sent for the first one. -/
def Json.Shape.ReadsAs {α : Type} (shape : Shape α) (a b : α) : Prop :=
  shape.codec.readOctets (toUtf8 (shape.codec.writeText a)) = .ok b

def Json.Shape.ReadsBack {α : Type} (shape : Shape α) (a : α) : Prop :=
  shape.ReadsAs a a

/-- The answer with the time that a clock shows. -/
def RegistrationResponse.settled (response : RegistrationResponse) : RegistrationResponse :=
  { response with registeredAt := response.registeredAt.settled }

/-- The task with the time that a clock shows. -/
def Task.settled (task : Task) : Task :=
  { task with createdAt := task.createdAt.settled }

/-- The priority is one of 64 bits. -/
def CreateTaskRequest.Fits (request : CreateTaskRequest) : Prop :=
  bounds64.holds request.priority = true

/-- The exit code, if there is one, is one of 32 bits. -/
def UpdateTaskRequest.Fits (request : UpdateTaskRequest) : Prop :=
  ∀ code, request.exitCode = some code → bounds32.holds code = true

theorem Tag.restores (tag : Tag) : Tag.shape.codec.Restores tag := by
  apply Shape.restores
  · decide
  · exact ⟨Codec.restores_text _, Codec.restores_text _, trivial⟩

theorem RegistrationRequest.restores (request : RegistrationRequest) :
    RegistrationRequest.shape.codec.Restores request := by
  apply Shape.restores
  · decide
  · have htags : Tag.shape.codec.list.Restores request.tags :=
      Codec.restores_list fun tag _ => tag.restores
    exact ⟨Codec.restores_text _, Codec.restores_text _, Codec.restores_text _,
      Codec.restores_text _, Codec.restores_text _, htags, trivial⟩

theorem RegistrationResponse.restores {response : RegistrationResponse}
    (hregular : response.registeredAt.IsRegular) :
    RegistrationResponse.shape.codec.Restores response := by
  apply Shape.restores
  · decide
  · exact ⟨Codec.restores_text _, Codec.restores_text _, Codec.restores_text _,
      Codec.restores_text _, Codec.restores_instant hregular, trivial⟩

theorem ErrorBody.restores (body : ErrorBody) : ErrorBody.shape.codec.Restores body := by
  apply Shape.restores
  · decide
  · exact ⟨Codec.restores_text _, trivial⟩

theorem CreateTaskRequest.restores {request : CreateTaskRequest} (hfits : request.Fits) :
    CreateTaskRequest.shape.codec.Restores request := by
  apply Shape.restores
  · decide
  · exact ⟨Codec.restores_text _, restores_priority hfits, trivial⟩

theorem UpdateTaskRequest.restores {request : UpdateTaskRequest} (hfits : request.Fits) :
    UpdateTaskRequest.shape.codec.Restores request := by
  apply Shape.restores
  · decide
  · have htext : ∀ s, Codec.text.Restores s ∧ Codec.text.write s ≠ .null := fun s =>
      ⟨Codec.restores_text s, Value.noConfusion⟩
    refine ⟨Codec.restores_text _, Codec.restores_optional fun s _ => htext s,
      Codec.restores_optional fun s _ => htext s, Codec.restores_optional ?_, trivial⟩
    intro code hcode
    exact ⟨restores_exitCode (hfits code hcode), Value.noConfusion⟩

/-- A value that is written as another one, which is restored, is read as that one. -/
theorem Json.Shape.readsAs_of_write {α : Type} {shape : Shape α} {a b : α}
    (hsame : shape.codec.write b = shape.codec.write a) (hb : shape.codec.Restores b) :
    shape.ReadsAs a b := by
  have hread := hb.readOctets
  rw [Codec.writeText, hsame] at hread
  exact hread

theorem RegistrationResponse.readsAs_settled (response : RegistrationResponse) :
    RegistrationResponse.shape.ReadsAs response response.settled := by
  apply Shape.readsAs_of_write
  · simp only [Shape.codec, shape, settled, Fields.write, Codec.write_settled]
  · exact restores response.registeredAt.settled_isRegular

theorem Task.readsAs_settled {task : Task} (hfits : Task.Fits task) :
    Task.shape.ReadsAs task task.settled := by
  apply Shape.readsAs_of_write
  · simp only [Shape.codec, shape, settled, Fields.write, Codec.write_settled]
  · exact Task.restores ⟨hfits.priority, hfits.exitCode⟩ task.createdAt.settled_isRegular

/-- What is read from what is sent, be it any texts, any tags in any order, any numbers of the size of
their fields, any parts that are there or not, and any points of time. -/
structure WireReading : Prop where
  tag : ∀ tag, Tag.shape.ReadsBack tag
  registration : ∀ request, RegistrationRequest.shape.ReadsBack request
  registered : ∀ response, RegistrationResponse.shape.ReadsAs response response.settled
  error : ∀ body, ErrorBody.shape.ReadsBack body
  task : ∀ task, Task.Fits task → Task.shape.ReadsAs task task.settled
  creation : ∀ request, CreateTaskRequest.Fits request →
    CreateTaskRequest.shape.ReadsBack request
  update : ∀ request, UpdateTaskRequest.Fits request →
    UpdateTaskRequest.shape.ReadsBack request
  /-- Just the times that no clock shows become others. -/
  time : ∀ i : Instant, i.settled = i ↔ i.nanos < 1000000000 ∨ i.seconds % 60 = 59

/-- Whatever is sent arrives, with its times as clocks show them. -/
theorem wire_values_read_back : WireReading where
  tag tag := tag.restores.readOctets
  registration request := request.restores.readOctets
  registered response := response.readsAs_settled
  error body := body.restores.readOctets
  task _ hfits := Task.readsAs_settled hfits
  creation _ hfits := (CreateTaskRequest.restores hfits).readOctets
  update _ hfits := (UpdateTaskRequest.restores hfits).readOctets
  time i := i.settled_eq_self_iff

/-- The smallest numbers, a leap second of the first minute, and texts that need escapes. -/
theorem wire_values_read_back_of_extremes :
    let leap : Instant := ⟨firstSecond + 59, 1999999999, by decide⟩
    let task : Task := ⟨"\"\\\x00", "\n\x7f", -9223372036854775808, .running, none, some "", some
      (-2147483648), none, leap⟩
    let create : CreateTaskRequest := ⟨"", 9223372036854775807⟩
    let update : UpdateTaskRequest := ⟨"𝄞", some "null", none, some 2147483647⟩
    (Task.Fits task ∧ Task.shape.ReadsBack task) ∧
      (create.Fits ∧ CreateTaskRequest.shape.ReadsBack create) ∧
      (update.Fits ∧ UpdateTaskRequest.shape.ReadsBack update) := by
  intro leap task create update
  have htask : Task.Fits task := by
    refine ⟨by decide, ?_⟩
    intro code hcode
    cases hcode
    decide
  have hcreate : create.Fits := by
    change bounds64.holds 9223372036854775807 = true
    decide
  have hupdate : update.Fits := by
    intro code hcode
    cases hcode
    decide
  have hread := wire_values_read_back
  exact ⟨⟨htask, hread.task task htask⟩, ⟨hcreate, hread.creation create hcreate⟩,
    ⟨hupdate, hread.update update hupdate⟩⟩

/-- Half a second beyond the first second of a minute is read as half past the next one. -/
theorem time_beyond_second_reads_later :
    let response : RegistrationResponse :=
      ⟨"agent-1", "host-1", "registered", "", ⟨0, 1500000000, by decide⟩⟩
    let later : RegistrationResponse := { response with registeredAt := ⟨1, 500000000, by decide⟩ }
    RegistrationResponse.shape.ReadsAs response later ∧
      ¬ RegistrationResponse.shape.ReadsBack response := by
  intro response later
  have hsettled : response.settled = later := by decide
  have hlater : RegistrationResponse.shape.ReadsAs response later := by
    rw [← hsettled]
    exact response.readsAs_settled
  refine ⟨hlater, ?_⟩
  intro hback
  have hsame : later = response := Except.ok.inj (hlater.symm.trans hback)
  exact absurd hsame (by decide)

end Muster
