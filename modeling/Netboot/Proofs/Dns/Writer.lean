import Mathlib.Data.List.Forall2
import Netboot.Dns.Writer
import Netboot.Proofs.Dns.Address
import Netboot.Proofs.Result

/-! What a message with records about its first question looks like on the wire. -/

set_option autoImplicit false

namespace Netboot.Dns

section
variable {places : Places} {position place : Nat} {label : Label} {labels : List Label}
  {key : List Label}

theorem linkedLabels_of_known (known : places.lookup (Name.key ⟨label :: labels, true⟩) = some place) :
    linkedLabels places position (label :: labels) = (pointer place, places) := by
  simp only [linkedLabels, known]

theorem linkedLabels_of_fresh (fresh : places.lookup (Name.key ⟨label :: labels, true⟩) = none) :
    linkedLabels places position (label :: labels) =
      let rest := linkedLabels (note places (Name.key ⟨label :: labels, true⟩) position)
        (position + 1 + label.length) labels
      (labelBytes label ++ rest.1, rest.2) := by
  simp only [linkedLabels, fresh]

theorem lookup_note {other : List Label} (fresh : places.lookup other = none)
    (known : places.lookup key = some place) :
    (note places other position).lookup key = some place := by
  have different : key ≠ other := by
    rintro rfl
    rw [known] at fresh
    cases fresh
  unfold note
  split
  · rw [List.lookup_cons, beq_false_of_ne different]
    exact known
  · exact known

theorem lookup_linkedLabels (known : places.lookup key = some place) :
    (linkedLabels places position labels).2.lookup key = some place := by
  induction labels generalizing places position with
  | nil => exact known
  | cons label rest ih =>
    cases found : places.lookup (Name.key ⟨label :: rest, true⟩) with
    | some earlier =>
      rw [linkedLabels_of_known found]
      exact known
    | none =>
      rw [linkedLabels_of_fresh found]
      exact ih (lookup_note found known)

theorem mem_note {entry : List Label × Nat} (member : entry ∈ note places key position) :
    entry = (key, position) ∨ entry ∈ places := by
  unfold note at member
  split at member
  · exact List.mem_cons.mp member
  · exact .inr member

@[simp] theorem length_key (labels : List Label) (absolute : Bool) :
    (Name.key ⟨labels, absolute⟩).length = labels.length :=
  List.length_map ..

theorem lookup_of_longer (longer : ∀ entry ∈ places, labels.length < entry.1.length) :
    places.lookup (Name.key ⟨labels, true⟩) = none := by
  refine List.lookup_eq_none_iff.mpr fun entry member => bne_iff_ne.mpr fun same => ?_
  have more := longer entry member
  rw [← same, length_key] at more
  exact Nat.lt_irrefl _ more

/-- Labels are written in full where all that was written before has more labels. -/
theorem linkedLabels_of_longer (longer : ∀ entry ∈ places, labels.length < entry.1.length) :
    (linkedLabels places position labels).1 = plainLabels labels := by
  induction labels generalizing places position with
  | nil => rfl
  | cons label rest ih =>
    -- The place noted here has a label more than what is left, so it is not pointed to either.
    have tail := @ih (note places (Name.key ⟨label :: rest, true⟩) position)
      (position + 1 + label.length) fun entry member => by
        obtain rfl | earlier := mem_note member
        · rw [length_key, List.length_cons]
          exact Nat.lt_succ_self _
        · exact Nat.lt_of_succ_lt (longer entry earlier)
    rw [linkedLabels_of_fresh (lookup_of_longer longer)]
    simp only [tail, plainLabels, List.flatMap_cons, List.append_assoc]

theorem lookup_linkedLabels_first (given : labels ≠ []) :
    (linkedLabels [] 12 labels).2.lookup (Name.key ⟨labels, true⟩) = some 12 := by
  cases labels with
  | nil => contradiction
  | cons label rest =>
    rw [linkedLabels_of_fresh rfl]
    exact lookup_linkedLabels (by simp [note, lastPlace])

end

/-- The name of a record about the first question: it points to where that is written, unless it is
the root. -/
def ownerBytes (name : Name) : Bytes := if name.labels = [] then [0] else pointer 12

def contentRecord (name : Name) (type ttl : Nat) (content : Bytes) : Bytes :=
  ownerBytes name ++ Bytes.ofNat 2 type ++ Bytes.ofNat 2 internet ++ Bytes.ofNat 4 ttl ++
    Bytes.ofNat 2 content.length ++ content

def addressRecord (ttl : Nat) (a : V4) : Bytes :=
  [0xc0, 12, 0, 1, 0, 1] ++ Bytes.ofNat 4 ttl ++ [0, 4] ++ a.toBytes

theorem contentRecord_v4 {name : Name} (given : name.labels ≠ []) (ttl : Nat) (a : V4) :
    contentRecord name RecordType.a ttl a.toBytes = addressRecord ttl a := by
  have front : pointer 12 ++ Bytes.ofNat 2 RecordType.a ++ Bytes.ofNat 2 internet =
      [0xc0, 12, 0, 1, 0, 1] := by decide
  rw [contentRecord, ownerBytes, if_neg given, front, V4.length_toBytes]
  rfl

structure RecordSet.IsAbout (records : RecordSet) (name : Name) (type : Nat) (ttl : Int) : Prop where
  name : records.name = name
  type : records.type = type
  rdclass : records.deleting.getD records.rdclass = internet
  ttl : records.ttl = ttl
  filled : records.data ≠ []

/-- These bytes stand for the data somewhere in a message, where names may point back. -/
def Rdata.IsSpelled (data : Rdata) (content : Bytes) : Prop :=
  ∃ places position after, rdataBytes places position data = .ok (content, after)

theorem rdataBytes_ofContent (places : Places) (position : Nat) (content : Bytes) :
    rdataBytes places position (.ofContent content) = .ok (content, places) := by
  have ended : content ++ [] = content := List.append_nil _
  exact congrArg (fun bytes => Except.ok (bytes, places)) ended

theorem isSpelled_ofContent {content bytes : Bytes} :
    (Rdata.ofContent content).IsSpelled bytes ↔ bytes = content := by
  constructor
  · rintro ⟨places, position, after, spelled⟩
    rw [rdataBytes_ofContent] at spelled
    exact (Prod.mk.inj (Except.ok.inj spelled)).1.symm
  · rintro rfl
    exact ⟨[], 0, [], rdataBytes_ofContent _ _ _⟩

section
variable {places after : Places} {position place : Nat} {key : List Label} {bytes : Bytes}

theorem lookup_nameBytes {linked : Bool} {name : Name}
    (named : nameBytes places position linked name = .ok (bytes, after))
    (known : places.lookup key = some place) : after.lookup key = some place := by
  unfold nameBytes at named
  split at named
  · cases named
  split at named
  · obtain ⟨-, rfl⟩ := Prod.mk.inj (Except.ok.inj named)
    exact lookup_linkedLabels known
  · obtain ⟨-, rfl⟩ := Prod.mk.inj (Except.ok.inj named)
    exact known

/-- Names that were written keep their places when data with names follow. -/
theorem lookup_rdataBytes {data : Rdata} (spelled : rdataBytes places position data = .ok (bytes, after))
    (known : places.lookup key = some place) : after.lookup key = some place := by
  induction data generalizing places position bytes with
  | nil =>
    cases spelled
    exact known
  | cons part rest ih =>
    cases part with
    | bytes content =>
      obtain ⟨⟨tail, last⟩, later, same⟩ := ok_of_bind spelled
      cases same
      exact ih later known
    | name name rule =>
      obtain ⟨⟨head, middle⟩, named, spelled⟩ := ok_of_bind spelled
      obtain ⟨⟨tail, last⟩, later, same⟩ := ok_of_bind spelled
      cases same
      exact ih later (lookup_nameBytes named known)

end

namespace Draft

def written (draft : Draft) : Bytes := draft.chunks.reverse.flatten

@[simp] theorem written_add (draft : Draft) (chunk : Bytes) (places : Places) :
    (draft.add chunk places).written = draft.written ++ chunk := by
  simp [written, add]

structure Extends (draft after : Draft) : Prop where
  written : ∃ more, after.written = draft.written ++ more
  places : ∀ key place, draft.places.lookup key = some place → after.places.lookup key = some place

variable {draft after : Draft} {room : Nat} {question : Question} {name : Name} {ttl : Int}

theorem Extends.refl (draft : Draft) : draft.Extends draft :=
  ⟨⟨[], (List.append_nil _).symm⟩, fun _ _ known => known⟩

theorem Extends.trans {last : Draft} (one : draft.Extends after) (two : after.Extends last) :
    draft.Extends last := by
  obtain ⟨more, wrote⟩ := one.written
  obtain ⟨rest, wrote'⟩ := two.written
  refine ⟨⟨more ++ rest, ?_⟩, fun key place known => two.places key place (one.places key place known)⟩
  rw [wrote', wrote, List.append_assoc]

theorem eq_of_fitting (fits : draft.fitting room = .ok after) : after = draft := by
  unfold fitting at fits
  split at fits
  · exact (Except.ok.inj fits).symm
  · cases fits

def ask (draft : Draft) (question : Question) : Draft :=
  let name := linkedLabels draft.places draft.size question.name.labels
  draft.add (name.1 ++ Bytes.ofNat 2 question.type ++ Bytes.ofNat 2 question.rdclass) name.2

theorem addQuestion_of_absolute (absolute : question.name.absolute = true) :
    draft.addQuestion question = .ok (draft.ask question) := by
  rw [addQuestion, nameBytes, absolute]
  rfl

theorem addQuestion_ok_iff : draft.addQuestion question = .ok after ↔
    question.name.absolute = true ∧ after = draft.ask question := by
  cases absolute : question.name.absolute with
  | true =>
    rw [addQuestion_of_absolute absolute]
    exact ⟨fun same => ⟨rfl, (Except.ok.inj same).symm⟩, fun ⟨_, same⟩ => same ▸ rfl⟩
  | false =>
    rw [addQuestion, nameBytes, absolute]
    exact iff_of_false nofun fun both => nomatch both.1

theorem extends_ask (draft : Draft) (question : Question) : draft.Extends (draft.ask question) :=
  ⟨⟨_, written_add draft _ _⟩, fun _ _ known => lookup_linkedLabels known⟩

theorem extends_addQuestion (added : draft.addQuestion question = .ok after) :
    draft.Extends after := by
  obtain ⟨-, rfl⟩ := addQuestion_ok_iff.mp added
  exact extends_ask draft question

theorem extends_addQuestions {questions : List Question}
    (added : questions.foldlM (fun (draft : Draft) question => do
      (← draft.addQuestion question).fitting room) draft = .ok after) :
    draft.Extends after := by
  induction questions generalizing draft with
  | nil =>
    cases added
    exact .refl _
  | cons question rest ih =>
    obtain ⟨next, first, others⟩ := ok_of_bind added
    obtain ⟨wider, asked, fits⟩ := ok_of_bind first
    rw [eq_of_fitting fits] at others
    exact (extends_addQuestion asked).trans (ih others)

/-- A time to live that can be written. -/
def IsTtl (ttl : Int) : Prop := 0 ≤ ttl ∧ ttl < 2 ^ 32

theorem ttlBytes_eq {bytes : Bytes} (wrote : ttlBytes ttl = .ok bytes) :
    IsTtl ttl ∧ bytes = Bytes.ofNat 4 ttl.toNat := by
  unfold ttlBytes at wrote
  split at wrote
  next inside => exact ⟨inside, (Except.ok.inj wrote).symm⟩
  next => cases wrote

/-- Where the name in question is written, so that records can point to it. -/
def Knows (draft : Draft) (name : Name) : Prop :=
  name.absolute = true ∧ (name.labels ≠ [] → draft.places.lookup name.key = some 12)

theorem Knows.nameBytes (knows : draft.Knows name) (position : Nat) :
    nameBytes draft.places position true name = .ok (ownerBytes name, draft.places) := by
  obtain ⟨labels, rooted⟩ := name
  obtain ⟨absolute, known⟩ := knows
  cases absolute
  cases labels with
  | nil => rfl
  | cons label rest =>
    exact congrArg Except.ok (linkedLabels_of_known (known (List.cons_ne_nil _ _)))

section Records
variable {records : RecordSet} {type : Nat} {content : Bytes}

theorem head_of_isAbout (knows : draft.Knows name) (about : records.IsAbout name type ttl)
    {bytes : Bytes} {places : Places} (headed : draft.head records records.ttl = .ok (bytes, places)) :
    IsTtl ttl ∧ bytes = ownerBytes name ++ Bytes.ofNat 2 type ++ Bytes.ofNat 2 internet ++
        Bytes.ofNat 4 ttl.toNat ∧
      places = draft.places := by
  obtain ⟨rfl, rfl, internal, rfl, -⟩ := about
  obtain ⟨⟨pointed, kept⟩, named, headed⟩ := ok_of_bind headed
  obtain ⟨lifetime, timed, headed⟩ := ok_of_bind headed
  obtain ⟨rfl, rfl⟩ := Prod.mk.inj (Except.ok.inj (named.symm.trans (knows.nameBytes draft.size)))
  obtain ⟨rfl, rfl⟩ := Prod.mk.inj (Except.ok.inj headed)
  obtain ⟨inside, rfl⟩ := ttlBytes_eq timed
  rw [internal]
  exact ⟨inside, rfl, rfl⟩

theorem addRecord_of_isAbout (knows : draft.Knows name) (about : records.IsAbout name type ttl)
    {data : Rdata} (added : addRecord records draft data = .ok after) :
    IsTtl ttl ∧ after.Knows name ∧ ∃ content, data.IsSpelled content ∧
      after.written = draft.written ++ contentRecord name type ttl.toNat content := by
  obtain ⟨⟨head, places⟩, headed, added⟩ := ok_of_bind added
  obtain ⟨inside, rfl, rfl⟩ := head_of_isAbout knows about headed
  obtain ⟨⟨content, places⟩, spelled, added⟩ := ok_of_bind added
  dsimp only at added
  split at added
  · cases added
  cases added
  -- Names in the data may be noted, but that of the question keeps its place.
  refine ⟨inside, ⟨knows.1, fun given => ?_⟩, content, ⟨_, _, _, spelled⟩, written_add draft _ _⟩
  exact lookup_rdataBytes spelled (knows.2 given)

theorem written_addRecords (knows : draft.Knows name) (about : records.IsAbout name type ttl)
    {list : List Rdata} (added : list.foldlM (addRecord records) draft = .ok after) :
    (list ≠ [] → IsTtl ttl) ∧ after.Knows name ∧
      ∃ contents, List.Forall₂ Rdata.IsSpelled list contents ∧
        after.written = draft.written ++ contents.flatMap (contentRecord name type ttl.toNat) := by
  induction list generalizing draft with
  | nil =>
    cases added
    exact ⟨fun given => absurd rfl given, knows, [], .nil, (List.append_nil _).symm⟩
  | cons data rest ih =>
    obtain ⟨next, first, others⟩ := ok_of_bind added
    obtain ⟨inside, kept, content, spelled, wrote⟩ := addRecord_of_isAbout knows about first
    obtain ⟨-, known, contents, all, wrote'⟩ := ih kept others
    refine ⟨fun _ => inside, known, content :: contents, .cons spelled all, ?_⟩
    rw [wrote', wrote, List.flatMap_cons, List.append_assoc]

theorem written_addSet (knows : draft.Knows name) (about : records.IsAbout name type ttl)
    (added : draft.addSet room records = .ok after) :
    IsTtl ttl ∧ after.Knows name ∧
      ∃ contents, List.Forall₂ Rdata.IsSpelled records.data contents ∧
        after.written = draft.written ++ contents.flatMap (contentRecord name type ttl.toNat) := by
  rw [addSet, if_neg (mt List.isEmpty_iff.mp about.filled)] at added
  obtain ⟨next, listed, fits⟩ := ok_of_bind added
  obtain ⟨inside, known, contents, all, wrote⟩ := written_addRecords knows about listed
  rw [eq_of_fitting fits]
  exact ⟨inside about.filled, known, contents, all, wrote⟩

theorem written_addSets (knows : draft.Knows name) {sets : List RecordSet}
    (about : ∀ records ∈ sets, records.IsAbout name type ttl)
    (added : sets.foldlM (addSet room) draft = .ok after) :
    (sets ≠ [] → IsTtl ttl) ∧
      ∃ contents, List.Forall₂ Rdata.IsSpelled (sets.flatMap (·.data)) contents ∧
        after.written = draft.written ++ contents.flatMap (contentRecord name type ttl.toNat) := by
  induction sets generalizing draft with
  | nil =>
    cases added
    exact ⟨fun given => absurd rfl given, [], .nil, (List.append_nil _).symm⟩
  | cons records rest ih =>
    obtain ⟨here, later⟩ := List.forall_mem_cons.mp about
    obtain ⟨next, first, others⟩ := ok_of_bind added
    obtain ⟨inside, known, contents, all, wrote⟩ := written_addSet knows here first
    obtain ⟨-, more, rest, wrote'⟩ := ih known later others
    refine ⟨fun _ => inside, contents ++ more, ?_, ?_⟩
    · rw [List.flatMap_cons]
      exact List.rel_append all rest
    · rw [wrote', wrote, List.flatMap_append, List.append_assoc]

end Records

theorem knows_ask_first (absolute : question.name.absolute = true) :
    (ask {} question).Knows question.name :=
  ⟨absolute, fun given => lookup_linkedLabels_first given⟩

theorem addQuestion_first (added : addQuestion {} question = .ok after) :
    after.written = plainLabels question.name.labels ++ Bytes.ofNat 2 question.type ++
        Bytes.ofNat 2 question.rdclass ∧
      after.Knows question.name := by
  obtain ⟨absolute, rfl⟩ := addQuestion_ok_iff.mp added
  refine ⟨?_, knows_ask_first absolute⟩
  rw [ask, written_add, linkedLabels_of_longer (by simp)]
  rfl

theorem Extends.knows (extended : draft.Extends after) (knows : draft.Knows name) :
    after.Knows name :=
  ⟨knows.1, fun given => extended.places _ _ (knows.2 given)⟩

end Draft

namespace Message

section
variable {message : Message} {question : Question} {more : List Question} {type : Nat} {ttl : Int}
  {bytes : Bytes} (asked : message.question = question :: more)
  (bare : message.authority = [] ∧ message.additional = []) (wrote : message.toBytes = .ok bytes)
include asked bare wrote

theorem toBytes_of_isAbout
    (about : ∀ records ∈ message.answer, records.IsAbout question.name type ttl) :
    (message.answer ≠ [] → Draft.IsTtl ttl) ∧
      ∃ contents others size,
        List.Forall₂ Rdata.IsSpelled (message.answer.flatMap (·.data)) contents ∧
        (more = [] → others = []) ∧ bytes = message.header ++
          (plainLabels question.name.labels ++ Bytes.ofNat 2 question.type ++
            Bytes.ofNat 2 question.rdclass ++ others) ++
          contents.flatMap (contentRecord question.name type ttl.toNat) ++
          message.extensionBytes size := by
  obtain ⟨questions, posed, wrote⟩ := ok_of_bind wrote
  obtain ⟨records, filled, wrote⟩ := ok_of_bind wrote
  obtain ⟨draft, fits, wrote⟩ := ok_of_bind wrote
  rw [Draft.eq_of_fitting fits] at wrote
  rw [asked] at posed
  obtain ⟨first, fitting, posed⟩ := ok_of_bind posed
  obtain ⟨start, opened, fitting⟩ := ok_of_bind fitting
  rw [Draft.eq_of_fitting fitting] at posed
  obtain ⟨head, knows⟩ := Draft.addQuestion_first opened
  -- Further questions may be written with pointers, but the first name keeps its place.
  have extended := Draft.extends_addQuestions posed
  obtain ⟨others, tail⟩ := extended.written
  rw [bare.1, bare.2, List.append_nil, List.append_nil] at filled
  obtain ⟨inside, contents, spelled, body⟩ :=
    Draft.written_addSets (extended.knows knows) about filled
  have alone : more = [] → others = [] := by
    rintro rfl
    cases posed
    exact List.self_eq_append_right.mp tail
  refine ⟨inside, contents, others, records.size, spelled, alone, ?_⟩
  have whole := Draft.written_add records (message.extensionBytes records.size) records.places
  rw [body, tail, head] at whole
  rw [← Except.ok.inj wrote]
  change message.header ++ (records.add _ _).written = _
  rw [whole]
  simp only [List.append_assoc]

theorem toBytes_ofContents {contents : List Bytes}
    (answered : message.answer =
      if contents = [] then [] else [.ofContents question.name type ttl contents]) :
    (contents ≠ [] → Draft.IsTtl ttl) ∧
      ∃ others size, (more = [] → others = []) ∧ bytes = message.header ++
        (plainLabels question.name.labels ++ Bytes.ofNat 2 question.type ++
          Bytes.ofNat 2 question.rdclass ++ others) ++
        contents.flatMap (contentRecord question.name type ttl.toNat) ++
        message.extensionBytes size := by
  have about : ∀ records ∈ message.answer, records.IsAbout question.name type ttl := by
    rw [answered]
    split
    · exact fun _ member => nomatch member
    next given =>
      intro records member
      obtain rfl := List.mem_singleton.mp member
      exact ⟨rfl, rfl, rfl, rfl, mt List.map_eq_nil_iff.mp given⟩
  have data : message.answer.flatMap (·.data) = contents.map Rdata.ofContent := by
    rw [answered]
    split
    next none => simp [none]
    next => simp [RecordSet.ofContents]
  obtain ⟨inside, found, others, size, spelled, alone, layout⟩ :=
    toBytes_of_isAbout asked bare wrote about
  rw [data, List.forall₂_map_left_iff] at spelled
  -- Contents are spelled as they are, so what was found in the bytes are these.
  have same : found = contents := by
    have each := spelled.imp fun content bytes => isSpelled_ofContent.mp
    exact List.forall₂_eq_eq_eq ▸ each.flip
  rw [same] at layout
  refine ⟨fun given => inside ?_, others, size, alone, layout⟩
  rw [answered, if_neg given]
  exact List.cons_ne_nil _ _

end

theorem toBytes_ofV4s {message : Message} {question : Question} {more : List Question} {ttl : Int}
    {addresses : List V4} {bytes : Bytes} (asked : message.question = question :: more)
    (answered : message.answer = [.ofV4s question.name ttl addresses])
    (bare : message.authority = [] ∧ message.additional = [])
    (named : question.name.labels ≠ []) (known : addresses ≠ [])
    (wrote : message.toBytes = .ok bytes) :
    ∃ others size, (more = [] → others = []) ∧ bytes = message.header ++
      (plainLabels question.name.labels ++ Bytes.ofNat 2 question.type ++
        Bytes.ofNat 2 question.rdclass ++ others) ++
      addresses.flatMap (addressRecord ttl.toNat) ++ message.extensionBytes size := by
  have some : ¬ addresses.map V4.toBytes = [] := by simpa using known
  have set : message.answer = if addresses.map V4.toBytes = [] then []
      else [.ofContents question.name RecordType.a ttl (addresses.map V4.toBytes)] := by
    rw [if_neg some, answered, RecordSet.ofV4s_eq]
  obtain ⟨-, others, size, alone, layout⟩ := toBytes_ofContents asked bare wrote set
  refine ⟨others, size, alone, ?_⟩
  rw [layout, List.flatMap_map]
  simp only [contentRecord_v4 named]

end Message

end Netboot.Dns
