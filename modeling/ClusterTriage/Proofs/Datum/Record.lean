import ClusterTriage.Datum.Record
import ClusterTriage.Settings.Coding
import Mathlib.Algebra.GroupWithZero.Nat
import Mathlib.Data.List.Nodup

/-!
# Records come back

A record is written as an object with some of its fields, in their order, and read by the names of the
fields. So two things are to be known of the members that were written: that they are fields in order
(`Record.ofDatum?_object`), and what stands under each name.

A field that was left out is read as its default, which has to be the value it was left out for: nothing for
a text, and no items for a list.
-/

namespace ClusterTriage

/-! ## 1. Members -/

namespace Record

variable {α : Type} {fields : List String} {members : List (String × Datum)} {r : Record}
  {name : String} {d : Datum} {decode : Datum → Option α} {a : α}

theorem select?_eq (hin : ∀ e ∈ members, e.1 ∈ fields) (hnodup : (members.map Prod.fst).Nodup) :
    select? fields members = some members := by
  induction members with
  | nil => rfl
  | cons e members ih =>
    obtain ⟨name, d⟩ := e
    rw [List.map_cons, List.nodup_cons] at hnodup
    have hfresh : (members.any fun e => e.1 == name) = false :=
      List.any_eq_false.mpr fun e he heq => by
        obtain rfl : e.1 = name := by simpa using heq
        exact hnodup.1 (List.mem_map.mpr ⟨e, he, rfl⟩)
    rw [select?, ih (fun e he => hin e (List.mem_cons_of_mem _ he)) hnodup.2, Option.bind_eq_bind,
      Option.bind_some, if_pos (hin _ List.mem_cons_self), hfresh]
    rfl

/-- Members that keep to the order of the fields are read as they are. -/
theorem ofDatum?_object (h : (members.map Prod.fst).Sublist fields) (hfields : fields.Nodup) :
    Record.ofDatum? fields (.object members) = some ⟨members, false⟩ := by
  have hin : ∀ e ∈ members, e.1 ∈ fields := fun e he => h.subset (List.mem_map_of_mem he)
  rw [Record.ofDatum?, select?_eq hin (hfields.sublist h)]
  rfl

end Record

namespace Datum

variable {α : Type} {name other : String} {o : Option String} {items : List Datum}

theorem lookup_optionalMember :
    (optionalMember name o).lookup other = if other = name then o.map .string else none := by
  cases o with
  | none => simp [optionalMember]
  | some s =>
    by_cases h : other = name <;> simp [optionalMember, h, List.lookup_cons, beq_false_of_ne]

theorem lookup_listMember :
    (listMember name items).lookup other =
      if other = name ∧ items ≠ [] then some (.array items) else none := by
  cases items with
  | nil => simp [listMember]
  | cons d items =>
    by_cases h : other = name <;> simp [listMember, h, List.lookup_cons, beq_false_of_ne]

theorem optionalMember_names : ((optionalMember name o).map Prod.fst).Sublist [name] := by
  cases o <;> simp [optionalMember]

theorem listMember_names : ((listMember name items).map Prod.fst).Sublist [name] := by
  cases items <;> simp [listMember]

theorem mapM_encode {β : Type} (encode : α → β) {decode : β → Option α} {l : List α}
    (h : ∀ a ∈ l, decode (encode a) = some a) : (l.map encode).mapM decode = some l := by
  induction l with
  | nil => rfl
  | cons a l ih =>
    rw [List.map_cons, List.mapM_cons, h a List.mem_cons_self,
      ih fun a ha => h a (List.mem_cons_of_mem _ ha)]
    rfl

end Datum

/-! ## 2. Fields -/

theorem optional_string {r : Record} {name : String} {o : Option String} (hr : r.positional = false)
    (h : r.values.lookup name = o.map .string) : r.optional name Datum.string? = some o := by
  rw [Record.optional, h]
  cases o with
  | none => simp [hr]
  | some s => rfl

theorem optionalDefaulted_string {r : Record} {name : String} {o : Option String}
    (h : r.values.lookup name = o.map .string) : r.optionalDefaulted name Datum.string? = some o := by
  rw [Record.optionalDefaulted, Record.defaulted, h]
  cases o <;> rfl

theorem required_of_lookup {α : Type} {r : Record} {name : String} {d : Datum} {decode : Datum → Option α}
    (h : r.values.lookup name = some d) : r.required name decode = decode d := by
  rw [Record.required, h, Option.bind_eq_bind, Option.bind_some]

theorem defaulted_of_lookup {α : Type} {r : Record} {name : String} {d : Datum} {a : α}
    {decode : Datum → Option α} (h : r.values.lookup name = some d) :
    r.defaulted name a decode = decode d := by
  rw [Record.defaulted, h]

theorem defaulted_array {α : Type} {r : Record} {name : String} {l : List α} (encode : α → Datum)
    {decode : Datum → Option α} (hl : ∀ a ∈ l, decode (encode a) = some a)
    (h : r.values.lookup name = if l.map encode ≠ [] then some (.array (l.map encode)) else none) :
    r.defaulted name [] (Datum.arrayOf? decode) = some l := by
  rw [Record.defaulted, h]
  cases l with
  | nil => rfl
  | cons a l =>
    rw [if_pos (by simp)]
    exact Datum.mapM_encode encode hl

/-- A number that fits a word of some bits is read as it was written. -/
theorem word?_natCast {bits n : Nat} (h : n < 2 ^ bits) : Datum.word? bits (.int n) = some n := by
  have hrange : (0 : Int) ≤ n ∧ (n : Int) ≤ Int.ofNat (Nat.pow 2 bits) - 1 := by
    constructor
    · exact Int.natCast_nonneg n
    · show (n : Int) ≤ ((2 ^ bits : Nat) : Int) - 1
      omega
  simp only [Datum.word?, Datum.intIn?, if_pos hrange]
  rfl

end ClusterTriage
