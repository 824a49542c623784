import Mathlib.Data.List.Forall2
import SafeSql.Proofs.Value.Mapping

/-!
# Equality of keys

Among the values that can be keys of mappings, equality is symmetric and transitive, so that two
mappings of the same size have the same keys as soon as every key of one is found in the other. It
is not reflexive: what is not a number does not equal itself.

## Main definitions

* `Value.Aspect`, `Value.aspect?` — what decides which values a value without elements equals.
* `Value.IsKey` — what can be a key.
* `Mapping.Proper` — what a mapping is that holds every key once.
* `Mapping.SameKeys` — two mappings have the same keys.

## Main statements

* `Value.IsKey.same_trans`, `Value.IsKey.same_symm` — the laws of equality.
* `Mapping.sameKeys_iff` — size and lookups decide whether two mappings have the same keys.
* `Mapping.Proper.find?_eq_of_perm` — the order of the entries does not matter for a lookup.
-/

namespace List

variable {α β : Type}

section Partners

variable {R : α → β → Prop}

/-- When each element has a partner, and no partner serves two of them, there are enough
partners. -/
theorem length_le_of_partners {as : List α} {bs : List β} (partner : ∀ a ∈ as, ∃ b ∈ bs, R a b)
    (apart : as.Pairwise fun a a' => ∀ b ∈ bs, R a b → ¬ R a' b) : as.length ≤ bs.length := by
  induction as generalizing bs with
  | nil => exact Nat.zero_le _
  | cons a as ih =>
    obtain ⟨b, member, related⟩ := partner a mem_cons_self
    obtain ⟨before, after, rfl⟩ := append_of_mem member
    obtain ⟨alone, apart⟩ := pairwise_cons.mp apart
    have rest : as.length ≤ (before ++ after).length := by
      refine ih (fun a' inside => ?_) (apart.imp fun {a a'} free b' member' => ?_)
      · obtain ⟨b', member', related'⟩ := partner a' (mem_cons_of_mem _ inside)
        obtain rfl | elsewhere : b' = b ∨ b' ∈ before ++ after := by
          simpa [or_left_comm, or_assoc] using member'
        · exact absurd related' (alone a' inside b' member related)
        · exact ⟨b', elsewhere, related'⟩
      · exact free b' (by simp only [mem_append, mem_cons] at member' ⊢; tauto)
    simp only [length_append, length_cons] at rest ⊢
    omega

/-- When there are no more partners than elements, each partner serves one. -/
theorem exists_partner_of_length_le {as : List α} {bs : List β}
    (partner : ∀ a ∈ as, ∃ b ∈ bs, R a b)
    (apart : as.Pairwise fun a a' => ∀ b ∈ bs, R a b → ¬ R a' b) (few : bs.length ≤ as.length)
    {b : β} (member : b ∈ bs) : ∃ a ∈ as, R a b := by
  by_contra alone
  -- Without the partner that serves none there would still be enough of them.
  obtain ⟨before, after, rfl⟩ := append_of_mem member
  have others : as.length ≤ (before ++ after).length := by
    refine length_le_of_partners (R := R) (fun a inside => ?_)
      (apart.imp fun {a a'} free b' member' => ?_)
    · obtain ⟨b', member', related⟩ := partner a inside
      obtain rfl | elsewhere : b' = b ∨ b' ∈ before ++ after := by
        simpa [or_left_comm, or_assoc] using member'
      · exact absurd ⟨a, inside, related⟩ alone
      · exact ⟨b', elsewhere, related⟩
    · exact free b' (by simp only [mem_append, mem_cons] at member' ⊢; tauto)
  simp only [length_append, length_cons] at others few
  omega

end Partners

theorem Forall₂.comp_of_mem {γ : Type} {R : α → β → Prop} {S : β → γ → Prop} {T : α → γ → Prop}
    {as : List α} {bs : List β} {cs : List γ}
    (each : ∀ a ∈ as, ∀ b c, R a b → S b c → T a c) (first : Forall₂ R as bs)
    (second : Forall₂ S bs cs) : Forall₂ T as cs := by
  induction first generalizing cs with
  | nil =>
    cases second
    exact .nil
  | cons head tail ih =>
    obtain ⟨c, cs, head', tail', rfl⟩ := forall₂_cons_left_iff.mp second
    exact .cons (each _ mem_cons_self _ _ head head')
      (ih (fun a member => each a (mem_cons_of_mem _ member)) tail')

theorem Forall₂.symm_of_mem {R : α → α → Prop} {as bs : List α}
    (each : ∀ a ∈ as, ∀ b ∈ bs, R a b → R b a) (pairs : Forall₂ R as bs) : Forall₂ R bs as := by
  induction pairs with
  | nil => exact .nil
  | cons head tail ih =>
    exact .cons (each _ mem_cons_self _ mem_cons_self head)
      (ih fun a member b member' => each a (mem_cons_of_mem _ member) b (mem_cons_of_mem _ member'))

end List

namespace SafeSql

namespace Value

/-! ## Values without elements -/

/-- What decides which values a value without elements equals. -/
inductive Aspect
  | null
  | date (d : Calendar.Date)
  | moment (known : Bool) (instant : Int)
  | time (known : Bool) (microseconds : Int)
  | range (view : Nat × Option Int × Option Int)
  | result (number : Nat)
  | number (x : Exact)
  | infinity (negative : Bool)
  | text (characters : List Char)
  | bytes (data : List UInt8)

def aspect? : Value → Option Aspect
  | .null => some .null
  | .date d => some (.date d)
  | .moment m => some (.moment m.time.offset.isSome m.instant)
  | .time t => some (.time t.offset.isSome t.microseconds)
  | .range start stop step => some (.range (rangeView start stop step))
  | .result number => some (.result number)
  | value => (value.number?.map .number).or ((value.infinity?.map .infinity).or
      ((value.text?.map .text).or (value.bytes?.map .bytes)))

theorem aspect?_of_number? {value : Value} {x : Exact} (h : value.number? = some x) :
    value.aspect? = some (.number x) := by
  cases value with
  | bool | int | float | decimal => simp [aspect?, h]
  | _ => cases h

theorem aspect?_of_infinity? {value : Value} {negative : Bool}
    (h : value.infinity? = some negative) : value.aspect? = some (.infinity negative) := by
  cases value with
  | float x => cases x <;> simp_all [aspect?, infinity?, number?, Exact.ofBinary64?]
  | decimal d => cases d <;> simp_all [aspect?, infinity?, number?, Exact.ofDecimal?]
  | _ => cases h

theorem aspect?_of_text? {value : Value} {characters : List Char}
    (h : value.text? = some characters) : value.aspect? = some (.text characters) := by
  cases value with
  | text | raw => simp [aspect?, h, number?, infinity?]
  | _ => cases h

theorem aspect?_of_bytes? {value : Value} {data : List UInt8}
    (h : value.bytes? = some data) : value.aspect? = some (.bytes data) := by
  cases value with
  | bytes | byteArray | byteView => simp [aspect?, h, number?, infinity?, text?]
  | _ => cases h

/-- The values that show an aspect. -/
def Aspect.Shows (value : Value) : Aspect → Prop
  | .null => value = .null
  | .date d => value = .date d
  | .moment known instant =>
    ∃ m, value = .moment m ∧ m.time.offset.isSome = known ∧ m.instant = instant
  | .time known microseconds =>
    ∃ t, value = .time t ∧ t.offset.isSome = known ∧ t.microseconds = microseconds
  | .range view =>
    ∃ start stop step, value = .range start stop step ∧ rangeView start stop step = view
  | .result n => value = .result n
  | .number x => value.number? = some x
  | .infinity negative => value.infinity? = some negative
  | .text characters => value.text? = some characters
  | .bytes data => value.bytes? = some data

theorem shows_of_aspect? {value : Value} {aspect : Aspect} (h : value.aspect? = some aspect) :
    aspect.Shows value := by
  unfold aspect? at h
  split at h
  case h_7 =>
    simp only [Option.or_eq_some_iff, Option.map_eq_some_iff] at h
    obtain ⟨x, seen, rfl⟩ | ⟨-, ⟨negative, seen, rfl⟩ | ⟨-, ⟨text, seen, rfl⟩ |
      ⟨-, data, seen, rfl⟩⟩⟩ := h <;> exact seen
  all_goals
    obtain rfl := Option.some.inj h
    simp [Aspect.Shows]

theorem aspect?_of_sameAtom {x y : Value} (same : sameAtom x y = true) :
    ∃ aspect, x.aspect? = some aspect ∧ y.aspect? = some aspect := by
  unfold sameAtom at same
  split at same
  case h_7 =>
    simp only [Bool.or_eq_true] at same
    rcases same with ((seen | seen) | seen) | seen <;> split at seen
    next hx hy => exact ⟨_, aspect?_of_number? hx, eq_of_beq seen ▸ aspect?_of_number? hy⟩
    · cases seen
    next hx hy => exact ⟨_, aspect?_of_infinity? hx, eq_of_beq seen ▸ aspect?_of_infinity? hy⟩
    · cases seen
    next hx hy => exact ⟨_, aspect?_of_text? hx, eq_of_beq seen ▸ aspect?_of_text? hy⟩
    · cases seen
    next hx hy => exact ⟨_, aspect?_of_bytes? hx, eq_of_beq seen ▸ aspect?_of_bytes? hy⟩
    · cases seen
  all_goals simp_all [aspect?, Calendar.Moment.same, Calendar.Time.same]

theorem sameAtom_of_aspect? {x y : Value} {aspect : Aspect} (first : x.aspect? = some aspect)
    (second : y.aspect? = some aspect) : sameAtom x y = true := by
  have kind := shows_of_aspect? first
  have kind' := shows_of_aspect? second
  cases aspect with
  | null | date | result =>
    obtain rfl := kind
    obtain rfl := kind'
    simp [sameAtom]
  | moment known instant =>
    obtain ⟨m, rfl, rfl, rfl⟩ := kind
    obtain ⟨n, rfl, known, instant⟩ := kind'
    simp [sameAtom, Calendar.Moment.same, known, instant]
  | time known microseconds =>
    obtain ⟨s, rfl, rfl, rfl⟩ := kind
    obtain ⟨t, rfl, known, microseconds⟩ := kind'
    simp [sameAtom, Calendar.Time.same, known, microseconds]
  | range view =>
    obtain ⟨a, b, c, rfl, rfl⟩ := kind
    obtain ⟨d, e, f, rfl, view⟩ := kind'
    simp [sameAtom, view]
  | number | infinity | text | bytes =>
    simp only [Aspect.Shows] at kind kind'
    unfold sameAtom
    split
    case h_7 => simp [kind, kind']
    all_goals cases kind

/-- Values without elements are equal when they show the same. -/
theorem sameAtom_iff (x y : Value) :
    sameAtom x y = true ↔ ∃ aspect, x.aspect? = some aspect ∧ y.aspect? = some aspect :=
  ⟨aspect?_of_sameAtom, fun ⟨_, first, second⟩ => sameAtom_of_aspect? first second⟩

/-! ## Keys -/

/-- Whether a value has no elements, and cannot be changed. -/
def isPlain : Value → Bool
  | .list _ | .tuple _ | .set _ | .frozenSet _ | .map .. | .byteArray _ => false
  | _ => true

/-- What can be a key: values without elements, and those of the collections of such values that
cannot be changed. A set holds no element twice. -/
inductive IsKey : Value → Prop
  | plain {value : Value} (plain : value.isPlain) : IsKey value
  | tuple {items : List Value} (keys : ∀ item ∈ items, IsKey item) : IsKey (.tuple items)
  | frozenSet {items : List Value} (keys : ∀ item ∈ items, IsKey item)
    (once : items.Pairwise fun item other => item.same other = false) : IsKey (.frozenSet items)

theorem same_of_isPlain {x : Value} (plain : x.isPlain) (y : Value) : x.same y = sameAtom x y := by
  cases x <;> simp [isPlain] at plain <;> simp [same]

theorem sameItems_iff (xs ys : List Value) :
    sameItems xs ys = true ↔ List.Forall₂ (fun x y => x.same y = true) xs ys := by
  induction xs generalizing ys with
  | nil => cases ys <;> simp [sameItems]
  | cons x xs ih => cases ys <;> simp [sameItems, ih]

theorem allAmong_iff (xs ys : List Value) :
    allAmong xs ys = true ↔ ∀ x ∈ xs, ∃ y ∈ ys, x.same y = true := by
  induction xs with
  | nil => simp [allAmong]
  | cons x xs ih => simp [allAmong, ih]

theorem same_tuple_iff (xs : List Value) (y : Value) : (Value.tuple xs).same y = true ↔
    ∃ ys, y = .tuple ys ∧ List.Forall₂ (fun x y => x.same y = true) xs ys := by
  have apart (plain : sameAtom (.tuple xs) y = true) : False := by
    obtain ⟨aspect, none, -⟩ := (sameAtom_iff _ _).mp plain
    cases none
  cases y with
  | tuple ys => simp [same, sameItems_iff]
  | _ => simpa [same] using apart

theorem same_frozenSet_iff (xs : List Value) (y : Value) : (Value.frozenSet xs).same y = true ↔
    ∃ ys, y.setItems? = some ys ∧ xs.length = ys.length ∧
      ∀ x ∈ xs, ∃ y ∈ ys, x.same y = true := by
  cases y <;> simp [same, setItems?, allAmong_iff]

/-- What equals a value without elements has none either. -/
theorem same_of_aspect? {y : Value} {aspect : Aspect} (seen : y.aspect? = some aspect)
    (z : Value) : y.same z = sameAtom y z := by
  cases y with
  | list | tuple | set | frozenSet | map => cases seen
  | byteArray data => simp [same]
  | _ => exact same_of_isPlain rfl z

namespace IsKey

theorem same_trans {x : Value} (key : IsKey x) {y z : Value} (first : x.same y = true)
    (second : y.same z = true) : x.same z = true := by
  induction key generalizing y z with
  | @plain x plain =>
    rw [same_of_isPlain plain] at first ⊢
    obtain ⟨aspect, seen, seen'⟩ := (sameAtom_iff x y).mp first
    rw [same_of_aspect? seen'] at second
    obtain ⟨aspect', known, seen''⟩ := (sameAtom_iff y z).mp second
    obtain rfl := Option.some.inj (seen'.symm.trans known)
    exact (sameAtom_iff x z).mpr ⟨aspect, seen, seen''⟩
  | @tuple xs _ ih =>
    obtain ⟨ys, rfl, pairs⟩ := (same_tuple_iff _ _).mp first
    obtain ⟨zs, rfl, pairs'⟩ := (same_tuple_iff _ _).mp second
    have each : ∀ x ∈ xs, ∀ y z, x.same y = true → y.same z = true → x.same z = true :=
      fun x member y z => ih x member
    exact (same_tuple_iff _ _).mpr ⟨zs, rfl, pairs.comp_of_mem each pairs'⟩
  | @frozenSet xs _ _ ih =>
    obtain ⟨ys, held, count, among⟩ := (same_frozenSet_iff _ _).mp first
    have as_set : (Value.frozenSet ys).same z = true := by
      cases y with
      | set | frozenSet =>
        obtain rfl := Option.some.inj held
        simpa [same] using second
      | _ => cases held
    obtain ⟨zs, held', count', among'⟩ := (same_frozenSet_iff _ _).mp as_set
    refine (same_frozenSet_iff _ _).mpr ⟨zs, held', count.trans count', fun x member => ?_⟩
    obtain ⟨y, member', related⟩ := among x member
    obtain ⟨z, member'', related'⟩ := among' y member'
    exact ⟨z, member'', ih x member related related'⟩

theorem eq_frozenSet {y : Value} (key : IsKey y) {ys : List Value} (held : y.setItems? = some ys) :
    y = .frozenSet ys ∧ ∀ item ∈ ys, IsKey item := by
  cases key with
  | plain plain =>
    cases y with
    | set | frozenSet => cases plain
    | _ => cases held
  | tuple => cases held
  | frozenSet keys =>
    obtain rfl := Option.some.inj held
    exact ⟨rfl, keys⟩

theorem same_symm {x y : Value} (key : IsKey x) (other : IsKey y) (same : x.same y = true) :
    y.same x = true := by
  induction key generalizing y with
  | @plain x plain =>
    rw [same_of_isPlain plain] at same
    obtain ⟨aspect, seen, seen'⟩ := (sameAtom_iff x y).mp same
    rw [same_of_aspect? seen']
    exact (sameAtom_iff y x).mpr ⟨aspect, seen', seen⟩
  | @tuple xs _ ih =>
    obtain ⟨ys, rfl, pairs⟩ := (same_tuple_iff _ _).mp same
    cases other with
    | plain plain => cases plain
    | tuple keys =>
      have each : ∀ x ∈ xs, ∀ y ∈ ys, x.same y = true → y.same x = true :=
        fun x member y member' => ih x member (keys y member')
      exact (same_tuple_iff _ _).mpr ⟨xs, rfl, pairs.symm_of_mem each⟩
  | @frozenSet xs keys once ih =>
    obtain ⟨ys, held, count, among⟩ := (same_frozenSet_iff _ _).mp same
    obtain ⟨rfl, keys'⟩ := other.eq_frozenSet held
    refine (same_frozenSet_iff _ _).mpr ⟨xs, rfl, count.symm, fun y member => ?_⟩
    have apart : xs.Pairwise fun x x' => ∀ y ∈ ys, x.same y = true → ¬ x'.same y = true := by
      refine once.imp_of_mem fun {x x'} inside inside' differ y member related related' => ?_
      have back := ih x' inside' (keys' y member) related'
      rw [(keys x inside).same_trans related back] at differ
      cases differ
    obtain ⟨x, inside, related⟩ :=
      List.exists_partner_of_length_le among apart (Nat.le_of_eq count.symm) member
    exact ⟨x, inside, ih x inside (keys' y member) related⟩

end IsKey

end Value

namespace Mapping

/-! ## Mappings with the same keys -/

/-- A mapping as it is made: it holds no key twice, and nothing that cannot be a key. -/
structure Proper (entries : Mapping) : Prop where
  distinct : entries.Distinct
  keys : ∀ key ∈ entries.keys, key.IsKey

/-- Each key of one of two mappings equals one of the other. -/
def SameKeys (first other : Mapping) : Prop :=
  (∀ key ∈ first.keys, ∃ key' ∈ other.keys, key'.same key = true) ∧
    ∀ key' ∈ other.keys, ∃ key ∈ first.keys, key'.same key = true

theorem isSome_find? {entries : Mapping} {key : Value} :
    (entries.find? key).isSome ↔ ∃ key' ∈ entries.keys, key'.same key = true := by
  simp [find?, keys]

/-- Mappings of the same size have the same keys when the keys of one are found in the other. -/
theorem sameKeys_iff {first other : Mapping} (proper : first.Proper) (proper' : other.Proper) :
    SameKeys first other ↔
      other.length = first.length ∧ ∀ key ∈ first.keys, (other.find? key).isSome := by
  have count (entries : Mapping) : entries.keys.length = entries.length := List.length_map _
  simp only [isSome_find?]
  have apart : first.keys.Pairwise fun key₁ key₂ =>
      ∀ key' ∈ other.keys, key'.same key₁ = true → ¬ key'.same key₂ = true := by
    refine proper.distinct.imp_of_mem fun {key₁ key₂} inside _ differ => ?_
    intro key' member same₁ same₂
    have back := (proper'.keys key' member).same_symm (proper.keys key₁ inside) same₁
    rw [(proper.keys key₁ inside).same_trans back same₂] at differ
    cases differ
  have apart' : other.keys.Pairwise fun key₁ key₂ =>
      ∀ key ∈ first.keys, key₁.same key = true → ¬ key₂.same key = true := by
    refine proper'.distinct.imp_of_mem fun {key₁ key₂} inside inside' differ => ?_
    intro key member same₁ same₂
    have back := (proper'.keys key₂ inside').same_symm (proper.keys key member) same₂
    rw [(proper'.keys key₁ inside).same_trans same₁ back] at differ
    cases differ
  constructor
  · rintro ⟨found, found'⟩
    have few := List.length_le_of_partners found apart
    have few' := List.length_le_of_partners found' apart'
    rw [count, count] at few few'
    exact ⟨by omega, found⟩
  · rintro ⟨size, found⟩
    have few : other.keys.length ≤ first.keys.length := by
      rw [count, count]
      exact Nat.le_of_eq size
    exact ⟨found, fun key' member => List.exists_partner_of_length_le found apart few member⟩

namespace Proper

variable {entries entries' : Mapping}

theorem perm (proper : entries.Proper) (perm : entries.Perm entries') : entries'.Proper := by
  have keys : entries.keys.Perm entries'.keys := perm.map _
  have keys' : ∀ key ∈ entries'.keys, key.IsKey :=
    fun key member => proper.keys key (keys.mem_iff.mpr member)
  -- Being apart is symmetric among keys only, so that this comes with it.
  have apart : entries.keys.Pairwise fun key other =>
      key.same other = false ∧ key.IsKey ∧ other.IsKey :=
    proper.distinct.imp_of_mem fun inside inside' differ =>
      ⟨differ, proper.keys _ inside, proper.keys _ inside'⟩
  refine ⟨(apart.perm keys fun {key other} h => ?_).imp And.left, keys'⟩
  obtain ⟨differ, key_is, other_is⟩ := h
  refine ⟨?_, other_is, key_is⟩
  by_contra same
  rw [other_is.same_symm key_is (by simpa using same)] at differ
  cases differ

/-- A key finds the value of the one entry that has it. -/
theorem find?_eq_some_iff (proper : entries.Proper) {key value : Value} (is_key : key.IsKey) :
    entries.find? key = some value ↔
      ∃ entry ∈ entries, entry.1.same key = true ∧ entry.2 = value := by
  constructor
  · intro found
    obtain ⟨entry, first, rfl⟩ := Option.map_eq_some_iff.mp found
    exact ⟨entry, List.mem_of_find?_eq_some first, by simpa using List.find?_some first, rfl⟩
  · rintro ⟨entry, member, same, rfl⟩
    induction entries with
    | nil => cases member
    | cons head tail ih =>
      obtain ⟨alone, apart⟩ := List.pairwise_cons.mp proper.distinct
      have later : Proper tail := ⟨apart, fun key inside => proper.keys key (.tail _ inside)⟩
      rcases List.mem_cons.mp member with rfl | inside
      · simp [find?, same]
      · have inside' : entry.1 ∈ Mapping.keys tail := List.mem_map_of_mem inside
        have differ : head.1.same key = false := by
          by_contra same'
          have back := (later.keys _ inside').same_symm is_key same
          have both := (proper.keys head.1 (.head _)).same_trans (by simpa using same') back
          rw [alone _ inside'] at both
          cases both
        rw [← ih later inside]
        simp [find?, differ]

/-- The order of the entries is no matter for what a key finds. -/
theorem find?_eq_of_perm (proper : entries.Proper) (perm : entries.Perm entries') {key : Value}
    (is_key : key.IsKey) : entries.find? key = entries'.find? key := by
  ext value
  rw [proper.find?_eq_some_iff is_key, (proper.perm perm).find?_eq_some_iff is_key]
  simp only [perm.mem_iff]

end Proper

end Mapping

end SafeSql
