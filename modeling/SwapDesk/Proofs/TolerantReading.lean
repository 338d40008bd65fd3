import SwapDesk.Proofs.JsonReading
import SwapDesk.Proofs.RecordReading
import SwapDesk.Proofs.ValueSkipping

/-! Objects in any layout. The members of an object may stand in any order, with blanks wherever
they are allowed and with other members between them. What is read depends on the texts of the
members that have a field, and on nothing else. -/

namespace SwapDesk.Wire

open Json (Digits Integer Fraction Exponent NumberText ItemsText MembersText ValueText Quotes
  separator)

variable {α β σ : Type}

namespace Fields

/-- The text is one that the field with the given key can read. Without such a field any value
will do. -/
def Accepts {β σ : Type} : Fields σ β → (room : Nat) → String → Bytes → Prop
  | .nil, room, _, text => ValueText room text
  | .cons name _ shape rest, room, key, text =>
    if key = name then ∃ value, readAll (shape.reader room) text = .ok value
    else rest.Accepts room key text

/-- Members that give all the fields which need a value, and none of them twice. -/
structure Presented (fields : Fields σ β) (room : Nat) (members : List (String × Bytes)) : Prop where
  accepted : ∀ key text, (key, text) ∈ members → fields.Accepts room key text
  unrepeated : fields.Unrepeated (members.map Prod.fst)
  complete : ∀ name ∈ fields.mandatory, name ∈ members.map Prod.fst

/-- The values that members give to fields. -/
inductive Filled (room : Nat) (members : List (String × Bytes)) :
    {β σ : Type} → Fields σ β → β → Prop where
  | nil : Filled room members .nil ()
  | given {α β σ : Type} {name : String} {fallback : Option α} {shape : Shape α}
      {rest : Fields σ β} {text : Bytes} {value : α} {values : β} (member : (name, text) ∈ members)
      (read : readAll (shape.reader room) text = .ok value) (others : Filled room members rest values) :
      Filled room members (.cons name fallback shape rest) (value, values)
  | missing {α β σ : Type} {name : String} {fallback : Option α} {shape : Shape α}
      {rest : Fields σ β} {value : α} {values : β} (absent : name ∉ members.map Prod.fst)
      (unset : shape.Unset value) (others : Filled room members rest values) :
      Filled room members (.cons name fallback shape rest) (value, values)

end Fields

theorem Stops.endsNumber {rest : Bytes} (stops : Stops rest) : EndsNumber rest := by
  obtain ⟨first, tail, begins, ends⟩ := stops
  intro byte head
  rw [Bool.eq_false_iff]
  intro digit
  have solid : isBlank byte = false := isBlank_of_isDigit digit
  have bare := bare_of_isDigit digit
  cases rest with
  | nil => cases head
  | cons front rest =>
    cases head
    cases (begins_cons rest solid).symm.trans begins
    simp only [isBare, ends, Bool.not_true, Bool.false_and, Bool.false_eq_true] at bare

theorem Shape.ends_of_stops {rest : Bytes} (stops : Stops rest) {α : Type} :
    (shape : Shape α) → shape.Ends rest
  | .number16 | .number64 => stops.endsNumber
  | .optional inner => inner.ends_of_stops stops
  | .text | .flag | .amount | .decimal | .payload | .list _ | .record _ _ _ | .choice _ _ => trivial

/-- A text that is read when it stands alone is read as the same value inside an object. -/
theorem Shape.covers (shape : Shape α) {room : Nat} {text : Bytes} {value : α}
    (read : readAll (shape.reader room) text = .ok value) : (shape.reader room).Covers text value := by
  intro rest stops
  obtain ⟨gap, takes, blank⟩ := readAll_cases read
  refine ⟨gap ++ rest, ?_, List.dropWhile_append_of_pos (List.all_eq_true.mp blank)⟩
  exact shape.reader_extends room takes rest fun _ => shape.ends_of_stops stops

theorem Reader.Covers.map {reader : Reader α} {text : Bytes} {value : α}
    (covers : reader.Covers text value) (change : α → β) :
    (reader.map change).Covers text (change value) := by
  intro rest stops
  obtain ⟨left, takes, same⟩ := covers rest stops
  exact ⟨left, takes.map change, same⟩

private theorem fresh_of_count {key : String} {value : Bytes} {passed later : List (String × Bytes)}
    (once : ((passed ++ (key, value) :: later).map Prod.fst).count key ≤ 1) :
    key ∉ passed.map Prod.fst := by
  rw [List.map_append, List.map_cons] at once
  exact not_mem_of_count once

private theorem lookup_of_fresh {key : String} {members : List (String × Bytes)}
    (fresh : key ∉ members.map Prod.fst) : members.lookup key = none := by
  rw [List.lookup_eq_none_iff]
  intro member present
  rw [bne_iff_ne]
  intro same
  exact fresh (List.mem_map.mpr ⟨member, present, same.symm⟩)

private theorem lookup_of_once {key : String} {text : Bytes} {members : List (String × Bytes)}
    (once : (members.map Prod.fst).count key ≤ 1) (member : (key, text) ∈ members) :
    members.lookup key = some text := by
  obtain ⟨passed, later, rfl⟩ := List.append_of_mem member
  simp [List.lookup_append, lookup_of_fresh (fresh_of_count once)]

namespace Fields

/-- What is known of an object when the given members have been read. -/
def gather {β σ : Type} : Fields σ β → (room : Nat) → List (String × Bytes) → σ
  | .nil, _, _ => ()
  | .cons name _ shape rest, room, members =>
    ((members.lookup name).bind fun text => (readAll (shape.reader room) text).toOption,
      rest.gather room members)

theorem gather_nil {β σ : Type} (room : Nat) : (fields : Fields σ β) →
    fields.gather room [] = fields.blank
  | .nil => rfl
  | .cons _ _ _ rest => Prod.ext rfl (rest.gather_nil room)

theorem gather_concat {β σ : Type} {room : Nat} {key : String} {text : Bytes}
    {members : List (String × Bytes)} : (fields : Fields σ β) → key ∉ fields.names →
    fields.gather room (members ++ [(key, text)]) = fields.gather room members
  | .nil, _ => rfl
  | .cons name _ shape rest, unknown => by
    simp only [names, List.mem_cons, not_or] at unknown
    have other : [(key, text)].lookup name = none :=
      lookup_of_fresh (by simpa using Ne.symm unknown.1)
    simp only [gather, List.lookup_append, other, Option.or_none, rest.gather_concat unknown.2]

/-- A member that is not a second one of its name is read, and is all that is added. -/
theorem member_covers {β σ : Type} {room : Nat} {key : String} {text : Bytes}
    {passed : List (String × Bytes)} : (fields : Fields σ β) → fields.isUnambiguous = true →
    fields.Accepts room key text → (key ∈ fields.names → key ∉ passed.map Prod.fst) →
    ∃ reader, fields.member room key (fields.gather room passed) = .ok reader ∧
      reader.Covers text (fields.gather room (passed ++ [(key, text)]))
  | .nil, _, accepts, _ => ⟨skip room, rfl, skip_covers accepts (Nat.le_refl _)⟩
  | .cons name fallback shape rest, unambiguous, accepts, fresh => by
    obtain ⟨distinct, distinctRest⟩ := distinct_rest unambiguous
    rw [Accepts] at accepts
    split at accepts
    next same =>
      subst same
      obtain ⟨value, read⟩ := accepts
      -- The slot is empty, and the fields behind this one do not have its name.
      have empty : passed.lookup key = none := lookup_of_fresh (fresh List.mem_cons_self)
      refine ⟨_, by simp only [member, gather, empty]; rfl, ?_⟩
      have filled : (Fields.cons key fallback shape rest).gather room (passed ++ [(key, text)]) =
          (some value, rest.gather room passed) := by
        simp [gather, List.lookup_append, empty, read, Except.toOption, rest.gather_concat distinct]
      rw [filled]
      exact (shape.covers read).map _
    next other =>
      obtain ⟨reader, chosen, covers⟩ := rest.member_covers distinctRest accepts fun known =>
        fresh (List.mem_cons_of_mem _ known)
      refine ⟨_, by simp only [member, gather, if_neg other, chosen]; rfl, ?_⟩
      have kept : [(key, text)].lookup name = none := lookup_of_fresh (by simpa using Ne.symm other)
      simp only [gather, List.lookup_append, kept, Option.or_none]
      exact covers.map _

/-- The values of the members are the ones that the object is completed with. -/
theorem Filled.complete {room : Nat} {members : List (String × Bytes)}
    {fields : Fields σ β} {values : β} (filled : Filled room members fields values)
    (defaults : fields.DefaultsUnset) (unrepeated : fields.Unrepeated (members.map Prod.fst))
    (complete : ∀ name ∈ fields.mandatory, name ∈ members.map Prod.fst) :
    fields.complete (fields.gather room members) = .ok values := by
  induction filled with
  | nil => rfl
  | @given α β σ name fallback shape rest text value values member read others ih =>
    have found := lookup_of_once (unrepeated name List.mem_cons_self) member
    have remaining := ih defaults.rest unrepeated.rest fun other needed =>
      complete other (mandatory_rest needed)
    simp only [gather, Fields.complete, found, Option.bind_some, read, Except.toOption, remaining]
    rfl
  | @missing α β σ name fallback shape rest value values absent unset others ih =>
    have empty := lookup_of_fresh absent
    have remaining := ih defaults.rest unrepeated.rest fun other needed =>
      complete other (mandatory_rest needed)
    cases fallback with
    | none => exact absurd (complete name List.mem_cons_self) absent
    | some default =>
      cases shape.unset_unique unset defaults.1
      simp only [gather, Fields.complete, empty, remaining]
      rfl

theorem exists_filled {β σ : Type} {room : Nat} {members : List (String × Bytes)} :
    (fields : Fields σ β) → fields.DefaultsUnset → fields.isUnambiguous = true →
    (∀ key text, (key, text) ∈ members → key ∈ fields.names → fields.Accepts room key text) →
    (∀ name ∈ fields.mandatory, name ∈ members.map Prod.fst) →
    ∃ values, Filled room members fields values
  | .nil, _, _, _, _ => ⟨(), .nil⟩
  | .cons name fallback shape rest, defaults, unambiguous, accepted, complete => by
    obtain ⟨distinct, distinctRest⟩ := distinct_rest unambiguous
    have acceptedRest : ∀ key text, (key, text) ∈ members → key ∈ rest.names →
        rest.Accepts room key text := by
      intro key text member known
      have accepts := accepted key text member (List.mem_cons_of_mem _ known)
      rwa [Accepts, if_neg (ne_of_mem_of_not_mem known distinct)] at accepts
    obtain ⟨values, others⟩ := rest.exists_filled defaults.rest distinctRest
      acceptedRest fun other needed => complete other (mandatory_rest needed)
    by_cases present : name ∈ members.map Prod.fst
    · obtain ⟨⟨_, text⟩, member, rfl⟩ := List.mem_map.mp present
      have accepts := accepted _ text member List.mem_cons_self
      rw [Accepts, if_pos rfl] at accepts
      obtain ⟨value, read⟩ := accepts
      exact ⟨(value, values), .given member read others⟩
    · cases fallback with
      | none => exact absurd (complete name List.mem_cons_self) present
      | some value => exact ⟨(value, values), .missing present defaults.1 others⟩

/-- The members of an object are gathered one after the other, whatever their order. -/
theorem members_gather {fields : Fields σ β} {room : Nat} {text : Bytes}
    {parts : List (String × Bytes)} (unambiguous : fields.isUnambiguous = true)
    (presented : fields.Presented room parts) (inside : MembersText true parts text)
    (rest : Bytes) : (members (fields.member room) true fields.blank).Takes (text ++ rest)
      (fields.gather room parts) rest := by
  apply Reader.Members.takes
  rw [← fields.gather_nil room]
  refine MembersText.members (fields.gather room) ?_ inside [] rfl rest
  rintro passed key value later rfl
  apply fields.member_covers unambiguous (presented.accepted key value (by simp))
  intro known
  exact fresh_of_count (presented.unrepeated key known)

end Fields

/-- Texts of objects in any layout are read as the values of their members. Blanks, the order of
the members and members that have no field make no difference. -/
def Tolerant (α : Type) [Wire α] (needed spare : List String) : Prop :=
  (shape (α := α)).Record fun fields iso => fields.Keyed needed spare ∧
    ∀ (lead text trail : Bytes) (members : List (String × Bytes)),
      lead.all isBlank = true → trail.all isBlank = true → MembersText true members text →
      fields.Presented (room - 1) members →
      (∃ values, Fields.Filled (room - 1) members fields values) ∧
        ∀ values, Fields.Filled (room - 1) members fields values →
          decode (lead ++ 0x7b :: (text ++ trail)) = .ok (iso.ofParts values)

theorem tolerant_of_keyed [Wire α] {needed spare : List String}
    (keyed : (shape (α := α)).Record fun fields _ => fields.Keyed needed spare) :
    Tolerant α needed spare := by
  apply keyed.imp
  intro β σ title fields iso same keyed
  refine ⟨keyed, ?_⟩
  intro lead text trail members blank blank' inside presented
  have unambiguous := unambiguous_of_shape same
  have defaults := keyed.defaults
  refine ⟨fields.exists_filled defaults unambiguous (fun key text member _ =>
    presented.accepted key text member) presented.complete, ?_⟩
  intro values filled
  have completed := filled.complete defaults presented.unrepeated presented.complete
  have taken := (Fields.members_gather unambiguous presented inside trail).refine completed
  have begins : Begins (lead ++ 0x7b :: (text ++ trail)) 0x7b (text ++ trail) :=
    (begins_cons _ rfl).behind blank
  rw [decode, same, Shape.reader]
  refine readAll_takes (Reader.Takes.map ?_ iso.ofParts) blank'
  exact Reader.takes_enclosed begins taken

theorem records_are_read_in_any_layout : EveryRecord Tolerant :=
  records_keyed.imp fun _ _ _ _ => tolerant_of_keyed

/-- A string as it is written here is one that others may write. -/
theorem quotes_string (value : String) : Quotes (Text.bytes (Json.string value)) value := by
  refine ⟨_, ?_, Json.body_escapes value.toList []⟩
  rw [← Json.toList_string, String.ofList_toList]

/-- A list of an object, a number that no field could have and a bracket in quotes. -/
def note : Bytes := Text.bytes " [\x7b\x7d, -1.5e3, \"]\"] "

private theorem digits_single {byte : UInt8} (digit : isDigit byte = true) : Digits [byte] :=
  ⟨nofun, List.forall_mem_singleton.mpr digit⟩

private theorem numberText_note : NumberText (Text.bytes "-1.5e3") := by
  have sign : ([0x2d] : Bytes) ∈ [[], [0x2d]] := by decide
  have whole : Integer [0x31] := ⟨digits_single rfl, nofun⟩
  have tenths : Fraction (0x2e :: [0x35]) := .some (digits_single rfl)
  have power : Exponent (0x65 :: ([] ++ [0x33])) :=
    .some (by decide) (by decide) (digits_single rfl)
  exact .parts sign whole tenths power

private theorem valueText_note : ValueText 126 note := by
  let object := Text.bytes "\x7b\x7d"
  let number := Text.bytes " -1.5e3"
  let bracket := Text.bytes " \"]\""
  have last : ItemsText false [bracket] (separator false ++ (bracket ++ ([] ++ [0x5d]))) :=
    .some (.none rfl)
  have inside : ItemsText true [object, number, bracket]
      (separator true ++ (object ++ (separator false ++ (number ++ _)))) := .some (.some last)
  have values : ∀ item ∈ [object, number, bracket], ValueText 125 item := by
    intro item member
    simp only [List.mem_cons, List.not_mem_nil, or_false] at member
    rcases member with rfl | rfl | rfl
    · have empty : MembersText true [] ([] ++ [0x7d]) := .none rfl
      exact .object empty nofun
    · have padded : ValueText 125 ([0x20] ++ (Text.bytes "-1.5e3" ++ [])) :=
        .padded rfl (.number numberText_note) rfl
      exact padded
    · have padded : ValueText 125 ([0x20] ++ (Text.bytes (Json.string "]") ++ [])) :=
        .padded rfl (.string (quotes_string "]")) rfl
      exact padded
  have padded : ValueText 126 ([0x20] ++ (0x5b :: _ ++ [0x20])) :=
    .padded rfl (.list inside values) rfl
  exact padded

/-- A member without a field, in front of the only field. -/
theorem fees_are_read_behind_a_note :
    let rate := Text.bytes " 30 "
    let text := Text.bytes "\"note\": [\x7b\x7d, -1.5e3, \"]\"] ,\"total_fee_bps\" : 30 \x7d"
    MembersText true [("note", note), ("total_fee_bps", rate)] text ∧
      decode (Text.bytes " " ++ 0x7b :: (text ++ Text.bytes " ")) = .ok (Pool.Fees.mk 30) := by
  intro rate text
  have last : MembersText false [("total_fee_bps", rate)]
      (separator false ++ ([] ++ (Text.bytes (Json.string "total_fee_bps") ++
        (Text.bytes " " ++ 0x3a :: (rate ++ ([] ++ [0x7d])))))) :=
    .some rfl (quotes_string _) rfl (.none rfl)
  have inside : MembersText true [("note", note), ("total_fee_bps", rate)]
      (separator true ++ ([] ++ (Text.bytes (Json.string "note") ++
        ([] ++ 0x3a :: (note ++ _))))) :=
    .some rfl (quotes_string _) rfl last
  refine ⟨inside, ?_⟩
  obtain ⟨_, read⟩ := records_are_read_in_any_layout.fees
  have found := read (Text.bytes " ") text (Text.bytes " ") _ rfl rfl inside
  have rated : ("total_fee_bps", rate) ∈ [("note", note), ("total_fee_bps", rate)] :=
    List.mem_cons_of_mem _ List.mem_cons_self
  refine (found ⟨?_, ?_, ?_⟩).2 (30, ()) (.given rated rfl .nil)
  · intro key value member
    simp only [List.mem_cons, List.not_mem_nil, or_false, Prod.mk.injEq] at member
    rcases member with ⟨rfl, rfl⟩ | ⟨rfl, rfl⟩
    · exact valueText_note
    · exact ⟨30, rfl⟩
  · simp [Fields.Unrepeated, Fields.names]
  · simp [Fields.mandatory]

end SwapDesk.Wire
