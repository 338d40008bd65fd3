import SwapDesk.Proofs.RecordReading

/-! Objects that do not say one thing for each field are refused. A field that is given twice is
refused where it comes again, and a field that is missing is found out at the end. -/

namespace SwapDesk.Wire

variable {α β σ : Type}

namespace Reader

/-- The reader refuses the input for the given reason. -/
def Fails (reader : Reader α) (input : Bytes) (fault : Fault) : Prop := reader input = .error fault

theorem Fails.map {reader : Reader α} {input : Bytes} {fault : Fault}
    (fails : reader.Fails input fault) (change : α → β) : (reader.map change).Fails input fault := by
  unfold Fails at *
  rw [Reader.map, fails]
  rfl

theorem Fails.refine {reader : Reader α} {input : Bytes} {fault : Fault}
    (fails : reader.Fails input fault) (check : α → Except Fault β) :
    (reader.refine check).Fails input fault := by
  unfold Fails at *
  rw [Reader.refine, fails]
  rfl

theorem Takes.refuse {reader : Reader α} {input rest : Bytes} {value : α} {fault : Fault}
    {check : α → Except Fault β} (takes : reader.Takes input value rest)
    (refused : check value = .error fault) : (reader.refine check).Fails input fault := by
  obtain ⟨shorter, read⟩ := takes
  simp only [Fails, Reader.refine, read, ok_bind, refused]
  rfl

theorem fails_enclosed {opening : UInt8} {room : Nat} {inside : Nat → Reader α} {input tail : Bytes}
    {fault : Fault} (begins : Begins input opening tail) (fails : (inside room).Fails tail fault) :
    (enclosed opening (room + 1) inside).Fails input fault := by
  obtain ⟨shorter, head⟩ := takes_next .endInValue begins
  unfold Fails at *
  simp only [enclosed, head, ok_bind, ne_eq, not_true, ite_false, fails]
  rfl

variable {member : String → σ → Except Fault (Reader σ)} {first : Bool} {state after : σ}
  {key : String} {input start behind tail mid : Bytes} {fault : Fault}

theorem fails_chosen (apart : Apart first input start) (named : string.Takes start key behind)
    (refused : member key state = .error fault) : (members member first state).Fails input fault := by
  obtain ⟨_, keyed⟩ := takes_key apart named
  unfold Fails
  rw [members]
  simp only [keyed, ok_bind, refused]
  rfl

theorem fails_later {reader : Reader σ} (apart : Apart first input start)
    (named : string.Takes start key behind) (chosen : member key state = .ok reader)
    (colon : Begins behind 0x3a tail) (takes : reader.Takes tail after mid)
    (fails : (members member false after).Fails mid fault) :
    (members member first state).Fails input fault := by
  obtain ⟨_, keyed⟩ := takes_key apart named
  obtain ⟨_, separated⟩ := takes_colon colon
  obtain ⟨_, read⟩ := takes
  unfold Fails at *
  rw [members]
  simp only [keyed, ok_bind, chosen, separated, read, fails]
  rfl

end Reader

open Reader

theorem readAll_fails {reader : Reader α} {input : Bytes} {fault : Fault}
    (fails : reader.Fails input fault) : readAll reader input = .error fault := by
  unfold Fails at fails
  rw [readAll, fails]
  rfl

namespace Fields

/-- Something stands there that the field with the given key reads. Without such a field it is
passed over. -/
def Admits {β σ : Type} : Fields σ β → (room : Nat) → String → (input rest : Bytes) → Prop
  | .nil, room, _, input, rest => (skip room).Takes input () rest
  | .cons name _ shape others, room, key, input, rest =>
    if key = name then ∃ value, (shape.reader room).Takes input value rest
    else others.Admits room key input rest

/-- The object goes on with members that can be read, from one place to another. The keys are
those that the members are read with, whatever escapes they are written with. -/
inductive Readable (fields : Fields σ β) (room : Nat) : (first : Bool) → (input : Bytes) →
    (keys : List String) → (last : Bool) → (rest : Bytes) → Prop where
  | none {first : Bool} {input : Bytes} : Readable fields room first input [] first input
  | some {first last : Bool} {input start behind tail mid rest : Bytes} {key : String}
      {keys : List String} (apart : Apart first input start) (named : string.Takes start key behind)
      (colon : Begins behind 0x3a tail) (admits : fields.Admits room key tail mid)
      (others : Readable fields room false mid keys last rest) :
      Readable fields room first input (key :: keys) last rest

/-- The fields that have been read are those whose names have been seen. -/
def Tracks {β σ : Type} : Fields σ β → (keys : List String) → σ → Prop
  | .nil, _, () => True
  | .cons name _ _ rest, keys, (slot, slots) =>
    (slot.isSome = true ↔ name ∈ keys) ∧ rest.Tracks keys slots

theorem tracks_blank {β σ : Type} : (fields : Fields σ β) → fields.Tracks [] fields.blank
  | .nil => trivial
  | .cons _ _ _ rest => ⟨by simp, rest.tracks_blank⟩

theorem Tracks.pass {β σ : Type} {keys : List String} {key : String} : {fields : Fields σ β} →
    {slots : σ} → fields.Tracks keys slots → key ∉ fields.names → fields.Tracks (keys ++ [key]) slots
  | .nil, (), _, _ => trivial
  | .cons name _ _ rest, (slot, slots), tracks, unknown => by
    simp only [names, List.mem_cons, not_or] at unknown
    refine ⟨?_, Tracks.pass tracks.2 unknown.2⟩
    rw [tracks.1, List.mem_append, List.mem_singleton, or_iff_left (Ne.symm unknown.1)]

/-- A field that has been read is not read again. -/
theorem Tracks.repeated {β σ : Type} {keys : List String} {key : String} :
    {fields : Fields σ β} → {slots : σ} → fields.Tracks keys slots → (room : Nat) →
    key ∈ fields.names → key ∈ keys → fields.member room key slots = .error (.duplicateField key)
  | .cons name _ _ rest, (slot, slots), tracks, room, known, seen => by
    rw [member]
    split
    next same =>
      rw [same] at seen
      rw [if_pos (tracks.1.mpr seen), same]
    next other =>
      have further := (List.mem_cons.mp known).resolve_left other
      rw [tracks.2.repeated room further seen]
      rfl

/-- A member whose field has not been read yet is read, and only its field is read with it. -/
theorem Tracks.admitted {β σ : Type} {room : Nat} {keys : List String} {key : String}
    {input behind : Bytes} : {fields : Fields σ β} → {slots : σ} → fields.Tracks keys slots →
    fields.isUnambiguous = true → (key ∈ fields.names → key ∉ keys) →
    fields.Admits room key input behind → ∃ reader after,
      fields.member room key slots = .ok reader ∧ reader.Takes input after behind ∧
        fields.Tracks (keys ++ [key]) after
  | .nil, (), _, _, _, admits => ⟨skip room, (), rfl, admits, trivial⟩
  | .cons name _ shape rest, (slot, slots), tracks, unambiguous, fresh, admits => by
    obtain ⟨distinct, distinctRest⟩ := distinct_rest unambiguous
    rw [Admits] at admits
    split at admits
    next same =>
      subst same
      obtain ⟨value, takes⟩ := admits
      have unseen : ¬ slot.isSome = true := by
        rw [tracks.1]
        exact fresh List.mem_cons_self
      refine ⟨_, (some value, slots), ?_, takes.map fun value => (some value, slots), ?_⟩
      · rw [member, if_pos rfl, if_neg unseen]
      · exact ⟨by simp, tracks.2.pass distinct⟩
    next other =>
      obtain ⟨reader, after, chosen, takes, further⟩ := tracks.2.admitted distinctRest
        (fun known => fresh (List.mem_cons_of_mem _ known)) admits
      refine ⟨_, (slot, after), ?_, takes.map _, ?_, further⟩
      · rw [member, if_neg other, chosen]
        rfl
      · rw [tracks.1, List.mem_append, List.mem_singleton, or_iff_left (Ne.symm other)]

/-- An object with missing fields is refused for the first of them. -/
theorem Tracks.missing {β σ : Type} {keys : List String} {name : String} :
    {fields : Fields σ β} → {slots : σ} → fields.Tracks keys slots →
    fields.mandatory.find? (fun name => name ∉ keys) = some name →
    fields.complete slots = .error (.missingField name)
  | .nil, (), _, missing => by cases missing
  | .cons own fallback _ rest, (slot, slots), tracks, missing => by
    rw [complete]
    rw [mandatory] at missing
    cases slot with
    | some value =>
      have seen : own ∈ keys := tracks.1.mp rfl
      have further : rest.mandatory.find? (fun name => name ∉ keys) = some name := by
        split at missing
        · rwa [List.find?_cons_of_neg (by simpa using seen)] at missing
        · exact missing
      simp only [Option.orElse_eq_orElse, Option.orElse_some, tracks.2.missing further]
      rfl
    | none =>
      have unseen : own ∉ keys := by
        intro seen
        cases tracks.1.mpr seen
      cases fallback with
      | none =>
        rw [Option.isNone_none, if_pos rfl, List.find?_cons_of_pos (by simpa using unseen)] at missing
        cases missing
        rfl
      | some value =>
        simp only [Option.orElse_eq_orElse, Option.orElse_none, tracks.2.missing missing]
        rfl

/-- Members that can be read are read one after the other. What becomes of the object is up to
the rest. -/
theorem Readable.run {fields : Fields σ β} {room : Nat} {first last : Bool} {input rest : Bytes}
    {keys passed : List String} {slots : σ}
    (readable : fields.Readable room first input keys last rest)
    (unambiguous : fields.isUnambiguous = true) (tracks : fields.Tracks passed slots)
    (unrepeated : fields.Unrepeated (passed ++ keys)) :
    ∃ after, fields.Tracks (passed ++ keys) after ∧
      (∀ fault, (members (fields.member room) last after).Fails rest fault →
        (members (fields.member room) first slots).Fails input fault) ∧
      ∀ final behind, (members (fields.member room) last after).Takes rest final behind →
        (members (fields.member room) first slots).Takes input final behind := by
  -- The values read so far do not matter, only which fields have one.
  induction readable generalizing passed slots with
  | none =>
    rw [List.append_nil]
    exact ⟨slots, tracks, fun _ fails => fails, fun _ _ takes => takes⟩
  | @some first last input start behind tail mid rest key keys apart named colon admits _ ih =>
    have split : passed ++ key :: keys = (passed ++ [key]) ++ keys := by simp
    have fresh : key ∈ fields.names → key ∉ passed := fun known =>
      not_mem_of_count (unrepeated key known)
    obtain ⟨reader, next, chosen, takes, further⟩ := tracks.admitted unambiguous fresh admits
    rw [split] at unrepeated ⊢
    obtain ⟨after, final, fails, succeeds⟩ := ih further unrepeated
    refine ⟨after, final, ?_, ?_⟩
    · intro fault later
      exact fails_later apart named chosen colon takes (fails fault later)
    · intro result behind later
      exact takes_member (takes_key apart named) chosen colon takes (succeeds result behind later)

end Fields

/-- The text is refused, and a query that it answers is absent for the same reason. -/
structure Refused (α : Type) [Wire α] (text : Bytes) (fault : Fault) (reason : String) : Prop where
  decoded : decode (α := α) text = .error fault
  answered : QueryResult.read (α := α) (.ok text) = .absent ⟨.decode, reason⟩

theorem refused_of_decode [Wire α] {text : Bytes} {fault : Fault}
    (decoded : decode (α := α) text = .error fault) : Refused α text fault fault.message :=
  ⟨decoded, read_of_fault decoded⟩

/-- Objects are refused once a field comes a second time, and at their end if a field is missing
that has to be present. The members before may stand in any order. -/
def Strict (α : Type) [Wire α] (needed spare : List String) : Prop :=
  (shape (α := α)).Record fun fields _ => fields.Keyed needed spare ∧
    ∀ (text inside rest : Bytes) (keys : List String) (last : Bool), Begins text 0x7b inside →
      fields.Readable (room - 1) true inside keys last rest → fields.Unrepeated keys →
      (∀ start key behind, key ∈ fields.names → key ∈ keys → Apart last rest start →
        string.Takes start key behind →
        Refused α text (.duplicateField key) ("duplicate field `" ++ key ++ "`")) ∧
      ∀ name behind, Begins rest 0x7d behind →
        fields.mandatory.find? (fun name => name ∉ keys) = some name →
        Refused α text (.missingField name) ("missing field `" ++ name ++ "`")

theorem strict_of_keyed [Wire α] {needed spare : List String}
    (keyed : (shape (α := α)).Record fun fields _ => fields.Keyed needed spare) :
    Strict α needed spare := by
  apply keyed.imp
  intro β σ title fields iso same keyed
  refine ⟨keyed, ?_⟩
  intro text inside rest keys last begins readable unrepeated
  have unambiguous := unambiguous_of_shape same
  obtain ⟨slots, tracks, fails, succeeds⟩ := readable.run unambiguous fields.tracks_blank unrepeated
  have refused {fault : Fault}
      (object : ((members (fields.member (room - 1)) true fields.blank).refine
        fields.complete).Fails inside fault) : decode (α := α) text = .error fault := by
    rw [decode, same, Shape.reader]
    exact readAll_fails ((fails_enclosed begins object).map iso.ofParts)
  refine ⟨?_, ?_⟩
  · intro start key behind known seen apart named
    have again := fails_chosen apart named (tracks.repeated (room - 1) known seen)
    exact refused_of_decode (refused ((fails _ again).refine _))
  · intro name behind closes missing
    have taken := succeeds slots behind (takes_no_members (takes_no_key closes))
    exact refused_of_decode (refused (taken.refuse (tracks.missing missing)))

theorem unclear_records_are_refused : EveryRecord Strict :=
  records_keyed.imp fun _ _ _ _ => strict_of_keyed

/-- A field that comes again under an escaped key, with no value behind it, and an object without
the field. -/
theorem fees_are_refused_for_an_unclear_rate :
    Refused Pool.Fees (Text.bytes "\x7b\"total_fee_bps\":30,\"total\\u005ffee_bps\": and so on")
        (.duplicateField "total_fee_bps") "duplicate field `total_fee_bps`" ∧
      Refused Pool.Fees (Text.bytes "\x7b\x7d") (.missingField "total_fee_bps")
        "missing field `total_fee_bps`" := by
  obtain ⟨_, strict⟩ := unclear_records_are_refused.fees
  constructor
  · let again := Text.bytes "\"total\\u005ffee_bps\": and so on"
    let inside := Text.bytes "\"total_fee_bps\":30" ++ 0x2c :: again
    obtain ⟨repeated, _⟩ := strict (0x7b :: inside) inside (0x2c :: again) ["total_fee_bps"] false
      rfl (.some rfl ⟨by decide, rfl⟩ rfl ⟨30, by decide, rfl⟩ .none)
      (by simp [Fields.Unrepeated, Fields.names])
    exact repeated again "total_fee_bps" (Text.bytes ": and so on") List.mem_cons_self
      List.mem_cons_self rfl ⟨by decide, rfl⟩
  · let closing := Text.bytes "\x7d"
    obtain ⟨_, missing⟩ := strict (0x7b :: closing) closing closing [] true rfl .none
      (by simp [Fields.Unrepeated])
    exact missing "total_fee_bps" [] rfl rfl

end SwapDesk.Wire
