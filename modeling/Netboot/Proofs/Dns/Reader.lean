import Netboot.Dns.Reader.Message

/-! What a message that was read asks about. Its names end at the root and are no longer than names may
be. The records behind the questions leave the questions as they are.
-/

set_option autoImplicit false

namespace Netboot.Dns

/-- A name as a message holds it. -/
structure Name.IsWhole (name : Name) : Prop where
  absolute : name.absolute = true
  size_le : name.size ≤ maxSize

instance (name : Name) : Decidable name.IsWhole :=
  decidable_of_iff (name.absolute = true ∧ name.size ≤ Name.maxSize)
    ⟨fun ⟨absolute, size_le⟩ => ⟨absolute, size_le⟩, fun ⟨absolute, size_le⟩ => ⟨absolute, size_le⟩⟩

namespace Reader

variable {α β : Type} {reader : Reader α} {P : α → Prop} {R : β → Prop}

def Gives (reader : Reader α) (P : α → Prop) : Prop :=
  ∀ message cursor value after, reader message cursor = some (value, after) → P value

theorem gives_pure {value : α} (holds : P value) : (pure value : Reader α).Gives P := by
  intro message cursor result after read
  cases read
  exact holds

theorem Gives.bind {next : α → Reader β} (gives : reader.Gives P)
    (later : ∀ value, P value → (next value).Gives R) : (reader >>= next).Gives R := by
  intro message cursor result after read
  obtain ⟨⟨value, middle⟩, first, others⟩ := Option.bind_eq_some_iff.mp read
  exact later value (gives message cursor value middle first) message middle result after others

theorem gives_of_later {next : α → Reader β} (later : ∀ value, (next value).Gives R) :
    (reader >>= next).Gives R := by
  have any : reader.Gives fun _ => True := fun _ _ _ _ _ => trivial
  exact any.bind fun value _ => later value

/-! ## Questions -/

theorem gives_name : name.Gives Name.IsWhole := by
  intro message cursor result after read
  obtain ⟨⟨list, furthest⟩, -, read⟩ := Option.bind_eq_some_iff.mp read
  dsimp only at read
  split at read
  next short =>
    cases read
    exact ⟨rfl, short⟩
  next => cases read

theorem gives_times (gives : reader.Gives P) (count : Nat) :
    (times reader count).Gives fun list => ∀ value ∈ list, P value := by
  induction count with
  | zero => exact gives_pure fun _ member => nomatch member
  | succ count ih =>
    refine gives.bind fun value holds => ih.bind fun list all => gives_pure ?_
    exact List.forall_mem_cons.mpr ⟨holds, all⟩

theorem gives_question : question.Gives fun question => question.name.IsWhole :=
  gives_name.bind fun _ whole => gives_of_later fun _ => gives_of_later fun _ => gives_pure whole

theorem gives_questions (opcode count : Nat) : (questions opcode count).Gives fun list =>
    ∀ question ∈ list, question.name.IsWhole :=
  (gives_times gives_question count).bind fun _ all => gives_of_later fun _ => gives_pure all

/-! ## Records -/

section
variable (place : Section) (opcode : Nat) {start : Message}

theorem question_addTo (add : List RecordSet → List RecordSet) :
    (addTo place start add).question = start.question := by
  cases place <;> rfl

theorem gives_extension (name : Name) (payload flags length : Nat) :
    (extension place start name payload flags length).Gives fun message =>
      message.question = start.question :=
  gives_of_later fun _ => gives_of_later fun _ => gives_pure rfl

theorem gives_updateRecord (zone : Nat) (head : Head) :
    (updateRecord place zone start head).Gives fun message =>
      message.question = start.question := by
  unfold updateRecord
  dsimp only
  split
  · exact gives_of_later fun _ => gives_pure (question_addTo place _)
  · exact gives_of_later fun _ => gives_pure (question_addTo place _)

theorem gives_record :
    (record place opcode start).Gives fun message => message.question = start.question := by
  refine gives_of_later fun head => gives_of_later fun _ => ?_
  split
  · exact gives_extension place head.name head.rdclass head.ttl head.length
  split
  · exact gives_of_later fun zone => gives_updateRecord place zone.rdclass head
  · exact gives_of_later fun _ => gives_pure (question_addTo place _)

theorem gives_records (count : Nat) :
    (records place opcode count start).Gives fun message => message.question = start.question := by
  induction count generalizing start with
  | zero => exact gives_pure rfl
  | succ count ih =>
    refine (gives_record place opcode).bind fun next same => ?_
    rw [← same]
    exact ih

end

/-! ## Messages -/

theorem gives_message : message.Gives fun message =>
    ∀ question ∈ message.question, question.name.IsWhole := by
  refine gives_of_later fun id => gives_of_later fun flags => gives_of_later fun counts => ?_
  refine (gives_questions _ _).bind fun questions whole => ?_
  -- From here on the questions stay as they are.
  refine (gives_records .answer _ _).bind fun answered one => ?_
  refine (gives_records .authority _ _).bind fun signed two => ?_
  refine (gives_records .additional _ _).bind fun all three => ?_
  refine gives_of_later fun cursor => gives_of_later fun _ => gives_pure ?_
  rw [three, two, one]
  exact whole

end Reader

namespace Message

theorem isWhole_of_ofBytes? {bytes : Bytes} {message : Message}
    (read : ofBytes? bytes = some message) :
    ∀ question ∈ message.question, question.name.IsWhole := by
  obtain ⟨⟨found, after⟩, ran, same⟩ := Option.map_eq_some_iff.mp read
  cases same
  exact Reader.gives_message _ _ found after ran

end Message

end Netboot.Dns
