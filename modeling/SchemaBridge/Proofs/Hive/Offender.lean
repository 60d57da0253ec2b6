import SchemaBridge.Proofs.DataType.WellFormed
import SchemaBridge.Proofs.Except
import SchemaBridge.Hive.TypeText

/-!
# Types without a text, and the part to blame

A type `Offends` if something about it, its parts aside, has no Hive text. `spots` is the walk through a type
with the steps that lead to each type met. A run `Reports` a list of spots if it fails at the first spot with
a defect, with the error of that spot, and succeeds where there is none. Such runs are put together by
`Reports.bind` and `Reports.within` as the writer of type texts is, so that it reports the spots of its type
(`reports_typeText`).

Main statement: `typeText_blames_first_offender`.
-/

namespace SchemaBridge.Hive

variable {policies : HivePolicies}

/-! ## Types that offend -/

/-- The type has no Hive text, whatever its parts are: a limit of the dialect is exceeded, a policy rejects
it, a map has a key that is not primitive, or two members of a record differ by case only. -/
def Offends (policies : HivePolicies) : DataType → Prop
  | .decimal precision _ => 38 < precision
  | .char size => 255 < size
  | .varchar size => 65535 < size
  | .timestampMicros => policies.timestampMicros = .reject
  | .timeMillis => policies.timeOfDay = .reject
  | .timeMicros => policies.timeOfDay = .reject
  | .enumeration _ => policies.enums = .reject
  | .map key _ => key.isPrimitive = false
  | .record fields => ¬(fields.map fun f => Text.lower f.name).Nodup
  | _ => False

/-- What is wrong with a type, its parts aside. -/
def defect? (policies : HivePolicies) : DataType → Option Unwritable
  | .decimal p _ => if maxDecimalPrecision < p then some (.precision p) else none
  | .char n => if maxCharLength < n then some (.length n maxCharLength) else none
  | .varchar n => if maxVarcharLength < n then some (.length n maxVarcharLength) else none
  | .timestampMicros => if policies.timestampMicros = .reject then some .wideningDisabled else none
  | .timeMillis => if policies.timeOfDay = .reject then some .wideningDisabled else none
  | .timeMicros => if policies.timeOfDay = .reject then some .wideningDisabled else none
  | .enumeration _ => if policies.enums = .reject then some .wideningDisabled else none
  | .map key _ => if key.isPrimitive = false then some .complexKey else none
  | .record fields => (collision? [] (fields.map Member.name)).map .collision
  | _ => none

/-- Names collide unless their small forms are distinct, and none of these has been seen. -/
theorem collision?_eq_none_iff {seen names : List String} :
    collision? seen names = none ↔
      (names.map Text.lower).Nodup ∧ ∀ n ∈ names, Text.lower n ∉ seen := by
  induction names generalizing seen with
  | nil => simp [collision?]
  | cons name names ih =>
    by_cases hs : Text.lower name ∈ seen
    · simp [collision?, hs]
    · rw [collision?, if_neg hs, ih, List.map_cons, List.nodup_cons, List.forall_mem_cons]
      simp only [List.mem_cons, not_or, List.mem_map, not_exists, not_and]
      constructor
      · rintro ⟨hd, hn⟩
        exact ⟨⟨fun n hm h => (hn n hm).1 h, hd⟩, hs, fun n hm => (hn n hm).2⟩
      · rintro ⟨⟨hne, hd⟩, -, hn⟩
        exact ⟨hd, fun n hm => ⟨fun h => hne n hm h, hn n hm⟩⟩

theorem ite_some_eq_none_iff {c : Prop} [Decidable c] {reason : Unwritable} :
    (if c then some reason else none) = none ↔ ¬c := by
  simp

/-- A type has a defect exactly if it offends. -/
theorem defect?_eq_none_iff {t : DataType} : defect? policies t = none ↔ ¬Offends policies t := by
  cases t with
  | record fields =>
    show (collision? [] (fields.map Member.name)).map Unwritable.collision = none ↔ ¬¬_
    rw [Option.map_eq_none_iff, collision?_eq_none_iff, not_not, List.map_map]
    simp [Function.comp_def]
  | decimal | char | varchar | timestampMicros | timeMillis | timeMicros | enumeration | map =>
    exact ite_some_eq_none_iff
  | _ => exact iff_of_true rfl not_false

/-! ## The walk with its steps -/

/-- A type met in another one, and the steps that lead down to it. -/
structure Spot where
  steps : List String
  type : DataType
deriving DecidableEq, Repr

/-- The spot seen from one level further up. -/
def Spot.below (step : String) (spot : Spot) : Spot := { spot with steps := step :: spot.steps }

mutual

/-- The walk through a type, with the steps to each type met: for each level a member name, or `element`,
`key` or `value`. -/
def spots : DataType → List Spot
  | .record fields => ⟨[], .record fields⟩ :: spotsOfFields fields
  | .array element => ⟨[], .array element⟩ :: (spots element).map (Spot.below "element")
  | .map key value =>
    ⟨[], .map key value⟩ :: ((spots key).map (Spot.below "key") ++ (spots value).map (Spot.below "value"))
  | t => [⟨[], t⟩]

def spotsOfFields : List Field → List Spot
  | [] => []
  | ⟨name, type, _⟩ :: fields => (spots type).map (Spot.below name) ++ spotsOfFields fields

end

theorem spots_of_isPrimitive {t : DataType} (h : t.isPrimitive = true) : spots t = [⟨[], t⟩] := by
  cases t with
  | record | array | map => cases h
  | _ => rfl

theorem map_type_map_below (step : String) (ss : List Spot) :
    (ss.map (Spot.below step)).map Spot.type = ss.map Spot.type := by
  rw [List.map_map]
  rfl

theorem map_type_spotsOfFields {fields : List Field}
    (ih : ∀ f ∈ fields, (spots f.type).map Spot.type = f.type.walk) :
    (spotsOfFields fields).map Spot.type = DataType.walkFields fields := by
  induction fields with
  | nil => rfl
  | cons f fields ihf =>
    obtain ⟨head, tail⟩ := List.forall_mem_cons.1 ih
    rw [spotsOfFields, List.map_append, map_type_map_below, head, ihf tail, DataType.walkFields]

/-- The spots of a type are those of its walk. -/
theorem map_type_spots (t : DataType) : (spots t).map Spot.type = t.walk := by
  induction t using DataType.induction with
  | primitive t ht => rw [spots_of_isPrimitive ht, DataType.walk_of_isPrimitive ht, List.map_singleton]
  | record fields ih => rw [spots, List.map_cons, map_type_spotsOfFields ih, DataType.walk]
  | array element ih => rw [spots, List.map_cons, map_type_map_below, ih, DataType.walk]
  | map key value ihk ihv =>
    rw [spots, List.map_cons, List.map_append, map_type_map_below, map_type_map_below, ihk, ihv,
      DataType.walk]

theorem mem_spotsOfFields_iff {fields : List Field} {spot : Spot} :
    spot ∈ spotsOfFields fields ↔ ∃ f ∈ fields, spot ∈ (spots f.type).map (Spot.below f.name) := by
  induction fields with
  | nil => simp [spotsOfFields]
  | cons f fields ih => simp [spotsOfFields, ih]

theorem named_map_below {step : String} {ss : List Spot} (hstep : step ≠ "")
    (h : ∀ s ∈ ss, "" ∉ s.steps) : ∀ s ∈ ss.map (Spot.below step), "" ∉ s.steps := by
  intro spot hspot
  obtain ⟨s, hs, rfl⟩ := List.mem_map.1 hspot
  rw [Spot.below, List.mem_cons, not_or]
  exact ⟨hstep.symm, h s hs⟩

/-- The steps through a well-formed type are named. -/
theorem named_of_wellFormed {t : DataType} (ht : t.WellFormed) : ∀ spot ∈ spots t, "" ∉ spot.steps := by
  induction t using DataType.induction with
  | primitive t hp => simp [spots_of_isPrimitive hp]
  | record fields ih =>
    obtain ⟨hnames, hfields⟩ := DataType.wellFormed_record_iff.1 ht
    rw [spots, List.forall_mem_cons]
    refine ⟨by simp, fun spot hspot => ?_⟩
    obtain ⟨f, hf, hspot⟩ := mem_spotsOfFields_iff.1 hspot
    have hname : f.name ≠ "" := fun hn => hnames.named (hn ▸ List.mem_map_of_mem hf)
    exact named_map_below hname (ih f hf (hfields f hf)) spot hspot
  | array element ih =>
    rw [spots, List.forall_mem_cons]
    exact ⟨by simp, named_map_below (by decide) (ih ht)⟩
  | map key value ihk ihv =>
    rw [spots, List.forall_mem_cons, List.forall_mem_append]
    exact ⟨by simp, named_map_below (by decide) (ihk ht.1), named_map_below (by decide) (ihv ht.2)⟩

/-! ## Runs that report the first defect -/

/-- The error of a spot with a defect. -/
def Spot.refusal? (policies : HivePolicies) (spot : Spot) : Option SchemaError :=
  (defect? policies spot.type).map fun reason =>
    .unsupportedTarget spot.type.typeName "hive" reason.message (dottedPath spot.steps)

/-- The run fails with the error of the first spot that has one, and succeeds if there is none. -/
structure Reports {α : Type} (policies : HivePolicies) (ss : List Spot) (r : Except SchemaError α) :
    Prop where
  refuses : ∀ e, ss.findSome? (Spot.refusal? policies) = some e → r = .error e
  accepts : ss.findSome? (Spot.refusal? policies) = none → ∃ a, r = .ok a

theorem refusal?_eq_none_iff {spot : Spot} :
    spot.refusal? policies = none ↔ ¬Offends policies spot.type := by
  rw [Spot.refusal?, Option.map_eq_none_iff, defect?_eq_none_iff]

theorem refusal?_below (step : String) (spot : Spot) :
    (spot.below step).refusal? policies = (spot.refusal? policies).map (SchemaError.within step) := by
  rw [Spot.refusal?, Spot.refusal?, Option.map_map]
  rfl

theorem findSome?_map_below (step : String) (ss : List Spot) :
    (ss.map (Spot.below step)).findSome? (Spot.refusal? policies) =
      (ss.findSome? (Spot.refusal? policies)).map (SchemaError.within step) := by
  induction ss with
  | nil => rfl
  | cons s ss ih =>
    rw [List.map_cons, List.findSome?_cons, List.findSome?_cons, refusal?_below, ih]
    cases s.refusal? policies <;> rfl

namespace Reports

variable {α β : Type} {ss ss' : List Spot} {r : Except SchemaError α}

theorem ok (a : α) : Reports policies [] (.ok a) where
  refuses e h := by cases h
  accepts _ := ⟨a, rfl⟩

theorem bind {f : α → Except SchemaError β} (h : Reports policies ss r)
    (hf : ∀ a, Reports policies ss' (f a)) : Reports policies (ss ++ ss') (r >>= f) where
  refuses e he := by
    rw [List.findSome?_append, Option.or_eq_some_iff] at he
    rcases he with he | ⟨hnone, he⟩
    · rw [h.refuses e he]
      rfl
    · obtain ⟨a, rfl⟩ := h.accepts hnone
      exact (hf a).refuses e he
  accepts hnone := by
    rw [List.findSome?_append, Option.or_eq_none_iff] at hnone
    obtain ⟨a, rfl⟩ := h.accepts hnone.1
    exact (hf a).accepts hnone.2

theorem map (f : α → β) (h : Reports policies ss r) : Reports policies ss (r.map f) where
  refuses e he := by
    rw [h.refuses e he]
    rfl
  accepts hnone := by
    obtain ⟨a, rfl⟩ := h.accepts hnone
    exact ⟨f a, rfl⟩

theorem within (step : String) (h : Reports policies ss r) :
    Reports policies (ss.map (Spot.below step)) (SchemaBridge.within step r) where
  refuses e he := by
    rw [findSome?_map_below, Option.map_eq_some_iff] at he
    obtain ⟨e', he', rfl⟩ := he
    rw [h.refuses e' he']
    rfl
  accepts hnone := by
    rw [findSome?_map_below, Option.map_eq_none_iff] at hnone
    obtain ⟨a, rfl⟩ := h.accepts hnone
    exact ⟨a, rfl⟩

/-- A run that reports on one type reports its defect. -/
theorem single {t : DataType} {r : Except SchemaError α}
    (hrefuses : ∀ reason, defect? policies t = some reason → r = .error (reason.error t.typeName))
    (haccepts : defect? policies t = none → ∃ a, r = .ok a) : Reports policies [⟨[], t⟩] r where
  refuses e he := by
    rw [List.findSome?_singleton, Spot.refusal?, Option.map_eq_some_iff] at he
    obtain ⟨reason, hreason, rfl⟩ := he
    exact hrefuses reason hreason
  accepts hnone := by
    rw [List.findSome?_singleton, Spot.refusal?, Option.map_eq_none_iff] at hnone
    exact haccepts hnone

end Reports

/-! ## Type texts -/

theorem reports_checkNames (fields : List Field) :
    Reports policies [⟨[], .record fields⟩] (checkNames (fields.map Member.name)) := by
  unfold checkNames
  refine .single (fun reason h => ?_) (fun h => ?_)
  · obtain ⟨name, hname, rfl⟩ := Option.map_eq_some_iff.1 h
    rw [hname]
    rfl
  · rw [Option.map_eq_none_iff.1 h]
    exact ⟨(), rfl⟩

theorem reports_memberTexts {fields : List Field}
    (ih : ∀ f ∈ fields, Reports policies (spots f.type) (typeText policies f.type)) :
    Reports policies (spotsOfFields fields) (memberTexts policies fields) := by
  induction fields with
  | nil => exact .ok []
  | cons f fields ihf =>
    obtain ⟨head, tail⟩ := List.forall_mem_cons.1 ih
    rw [memberTexts, spotsOfFields]
    exact (head.within f.name).bind fun text => (ihf tail).map ((f.name, text) :: ·)

/-- A type that is checked on its own account reports itself. -/
theorem reports_check {α : Type} {c : Prop} [Decidable c] {t : DataType} {reason : Unwritable} {a : α}
    (h : defect? policies t = if c then some reason else none) :
    Reports policies [⟨[], t⟩] (if c then .error (reason.error t.typeName) else .ok a) := by
  by_cases hc : c
  · rw [if_pos hc] at h ⊢
    exact .single (fun r hr => by rw [Option.some.inj (h.symm.trans hr)])
      fun hn => by rw [h] at hn; cases hn
  · rw [if_neg hc] at h ⊢
    exact .single (fun r hr => by rw [h] at hr; cases hr) fun _ => ⟨a, rfl⟩

/-- A type without a defect of its own has nothing to report. -/
theorem reports_ok {α : Type} {t : DataType} {a : α} (h : defect? policies t = none) :
    Reports policies [⟨[], t⟩] (.ok a) :=
  .single (fun reason hr => by rw [h] at hr; cases hr) fun _ => ⟨a, rfl⟩

theorem widened_eq_ite (policy : Policy) (typeName text : String) :
    widened policy typeName text =
      if policy = .reject then .error (Unwritable.wideningDisabled.error typeName) else .ok text := by
  cases policy <;> rfl

theorem reports_of_isPrimitive {t : DataType} (ht : t.isPrimitive = true) :
    Reports policies [⟨[], t⟩] (typeText policies t) := by
  cases t with
  | record | array | map => cases ht
  | decimal | char | varchar => exact reports_check rfl
  | timestampMicros | timeMillis | timeMicros | enumeration =>
    rw [typeText, widened_eq_ite]
    exact reports_check rfl
  | _ => exact reports_ok rfl

/-- **The writer of type texts reports the spots of its type.** -/
theorem reports_typeText (policies : HivePolicies) (t : DataType) :
    Reports policies (spots t) (typeText policies t) := by
  induction t using DataType.induction with
  | primitive t ht =>
    rw [spots_of_isPrimitive ht]
    exact reports_of_isPrimitive ht
  | record fields ih =>
    have hmembers := (reports_memberTexts ih).map spellStruct
    rw [typeText, spots]
    exact (reports_checkNames fields).bind fun _ => hmembers
  | array element ih =>
    have hwhole : Reports policies [⟨[], .array element⟩] (.ok ()) := reports_ok rfl
    have helement := (ih.within "element").map spellArray
    rw [typeText, spots]
    exact hwhole.bind fun _ => helement
  | map key value ihk ihv =>
    -- The key is looked at before it is written, so that the map is blamed before its key.
    have hkey : Reports policies [⟨[], .map key value⟩]
        (if key.isPrimitive = false then .error (Unwritable.complexKey.error "map") else .ok ()) :=
      reports_check rfl
    have hparts := (ihk.within "key").bind fun keyText =>
      (ihv.within "value").map (spellMap keyText)
    have hmap := hkey.bind fun _ => hparts
    rw [typeText, spots]
    cases h : key.isPrimitive with
    | false =>
      rw [h] at hmap
      exact hmap
    | true =>
      rw [h] at hmap
      exact hmap

/-- A type has a text exactly if no part of it offends. -/
theorem exists_typeText_iff {t : DataType} :
    (∃ text, typeText policies t = .ok text) ↔ ∀ u ∈ t.walk, ¬Offends policies u := by
  have hreports := reports_typeText policies t
  have hnone : (spots t).findSome? (Spot.refusal? policies) = none ↔
      ∀ u ∈ t.walk, ¬Offends policies u := by
    rw [List.findSome?_eq_none_iff, ← map_type_spots, List.forall_mem_map]
    simp only [refusal?_eq_none_iff]
  rw [← hnone]
  refine ⟨fun ⟨text, h⟩ => ?_, hreports.accepts⟩
  cases hs : (spots t).findSome? (Spot.refusal? policies) with
  | none => rfl
  | some e =>
    rw [hreports.refuses e hs] at h
    cases h

/-- The error of a type without a text is the one of the first spot that has one. -/
theorem exists_of_typeText_eq_error {t : DataType} {e : SchemaError} (h : typeText policies t = .error e) :
    ∃ before spot after, spots t = before ++ spot :: after ∧
      (∀ s ∈ before, ¬Offends policies s.type) ∧ spot.refusal? policies = some e := by
  have hreports := reports_typeText policies t
  cases hs : (spots t).findSome? (Spot.refusal? policies) with
  | none =>
    obtain ⟨text, htext⟩ := hreports.accepts hs
    rw [h] at htext
    cases htext
  | some e' =>
    have he := hreports.refuses e' hs
    rw [h, Except.error.injEq] at he
    obtain ⟨before, spot, after, hspots, hspot, hbefore⟩ := List.findSome?_eq_some_iff.1 hs
    exact ⟨before, spot, after, hspots, fun s hs => refusal?_eq_none_iff.1 (hbefore s hs), he ▸ hspot⟩

/-- **A type has a text exactly if no part of it offends; else the first part that does is blamed.** Parts
come in the order of the walk. The error has the name of the part, what is wrong with it and the steps to
it. -/
theorem typeText_blames_first_offender (policies : HivePolicies) {t : DataType} (ht : t.WellFormed) :
    ((∃ text, typeText policies t = .ok text) ↔ ∀ u ∈ t.walk, ¬Offends policies u) ∧
      (spots t).map Spot.type = t.walk ∧
      ∀ e, typeText policies t = .error e → ∃ before steps u after reason,
        spots t = before ++ ⟨steps, u⟩ :: after ∧ (∀ s ∈ before, ¬Offends policies s.type) ∧
          Offends policies u ∧ defect? policies u = some reason ∧
          e = .unsupportedTarget u.typeName "hive" reason.message (".".intercalate steps) := by
  refine ⟨exists_typeText_iff, map_type_spots t, fun e h => ?_⟩
  obtain ⟨before, ⟨steps, u⟩, after, hspots, hbefore, hspot⟩ := exists_of_typeText_eq_error h
  obtain ⟨reason, hreason, rfl⟩ := Option.map_eq_some_iff.1 hspot
  have hoffends : Offends policies u := by
    by_contra hno
    rw [defect?_eq_none_iff.2 hno] at hreason
    cases hreason
  have hnamed : "" ∉ steps := named_of_wellFormed ht ⟨steps, u⟩ (by simp [hspots])
  refine ⟨before, steps, u, after, reason, hspots, hbefore, hoffends, hreason, ?_⟩
  rw [← dottedPath_eq_intercalate hnamed]

/-- A map in a record, with a long text and a time of day below it, and names that differ by case. -/
def ledgerType : DataType :=
  .record [
    ⟨"id", .int64, false⟩,
    ⟨"notes", .map .string (.array (.record [
      ⟨"text", .char 300, true⟩, ⟨"at", .timeMillis, true⟩])), true⟩,
    ⟨"tags", .record [⟨"Σ", .string, true⟩, ⟨"σ", .string, true⟩], true⟩]

theorem typeText_blames_text_of_ledgerType :
    ledgerType.WellFormed ∧
      (∃ u ∈ ledgerType.walk, Offends {} u) ∧
      typeText {} ledgerType = .error (.unsupportedTarget "char" "hive"
        "length 300 exceeds the maximum of 255" "notes.value.element.text") ∧
      ∃ before steps u after reason, spots ledgerType = before ++ ⟨steps, u⟩ :: after ∧
        (∀ s ∈ before, ¬Offends {} s.type) ∧ Offends {} u ∧ defect? {} u = some reason ∧
        (.unsupportedTarget "char" "hive" "length 300 exceeds the maximum of 255" "notes.value.element.text" :
          SchemaError) = .unsupportedTarget u.typeName "hive" reason.message (".".intercalate steps) := by
  have hsize : (0 : UInt32) < 300 := by decide
  have ht : ledgerType.WellFormed :=
    ⟨by constructor <;> decide, trivial,
      ⟨trivial, by constructor <;> decide, hsize, trivial, trivial⟩,
      ⟨by constructor <;> decide, trivial, trivial, trivial⟩, trivial⟩
  have he : typeText {} ledgerType = .error (.unsupportedTarget "char" "hive"
      "length 300 exceeds the maximum of 255" "notes.value.element.text") := by decide +kernel
  obtain ⟨htext, -, hblames⟩ := typeText_blames_first_offender {} ht
  refine ⟨ht, ?_, he, hblames _ he⟩
  by_contra hno
  obtain ⟨text, h⟩ := htext.2 fun u hu hoff => hno ⟨u, hu, hoff⟩
  rw [he] at h
  cases h

end SchemaBridge.Hive
