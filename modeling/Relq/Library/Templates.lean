/-
Module: Relq.Library.Templates
Layer: Library
Purpose: Texts with numbered holes. A template is filled in an order that need not be the order of
  its text: `late first second` puts `first` before `second` in the text but fills it afterwards.
  Every hole takes the next ordinal when it is filled. The library relates the ordinals of the text
  to the list of filled values, and filling placeholders by number and by position to writing the
  values in place.
Imports: Mathlib.Data.List.Basic, Mathlib.Data.List.Perm.Basic, Relq.Library.Offsets
Trusted boundary: none (fully proved)
Main exports: Template, Template.values, Template.text, Template.items, Template.ordinals, Template.InOrder,
  Template.separated, ordinals_perm, ordinals_eq_range_iff, values_map, text_map, fillNumbered_text,
  fillPositional_text, text_eq_iff, Assembled, Assembled.text_within, AssembledEach
-/
import Mathlib.Data.List.Basic
import Mathlib.Data.List.Perm.Basic
import Relq.Library.Offsets

namespace Templates

/-- A text with holes. -/
inductive Template (L V : Type) where
  | fixed (items : List L)
  | hole (value : V)
  | append (first second : Template L V)
  /-- `first` stands before `second` and is filled after it. -/
  | late (first second : Template L V)

variable {L V : Type}

namespace Template

/-- The values of the holes in the order in which they are filled. -/
def values : Template L V → List V
  | fixed _ => []
  | hole value => [value]
  | append first second => first.values ++ second.values
  | late first second => second.values ++ first.values

/-- The values of the holes from left to right. -/
def slots : Template L V → List V
  | fixed _ => []
  | hole value => [value]
  | append first second => first.slots ++ second.slots
  | late first second => first.slots ++ second.slots

/-- The ordinals of the holes from left to right, when `n` holes were filled before. -/
def ordinals : Template L V → Nat → List Nat
  | fixed _, _ => []
  | hole _, n => [n + 1]
  | append first second, n => first.ordinals n ++ second.ordinals (n + first.values.length)
  | late first second, n => first.ordinals (n + second.values.length) ++ second.ordinals n

/-- Text order and filling order agree on the holes. -/
def InOrder : Template L V → Prop
  | fixed _ => True
  | hole _ => True
  | append first second => first.InOrder ∧ second.InOrder
  | late first second =>
      first.InOrder ∧ second.InOrder ∧ (first.values = [] ∨ second.values = [])

/-- The text with every value written in place. -/
def inline (shown : V → L) : Template L V → List L
  | fixed items => items
  | hole value => [shown value]
  | append first second => first.inline shown ++ second.inline shown
  | late first second => first.inline shown ++ second.inline shown

/-- The text with placeholders, when `n` holes were filled before. -/
def text (mark : Nat → L) : Template L V → Nat → List L
  | fixed items, _ => items
  | hole _, n => [mark (n + 1)]
  | append first second, n => first.text mark n ++ second.text mark (n + first.values.length)
  | late first second, n => first.text mark (n + second.values.length) ++ second.text mark n

/-- No fixed text contains a placeholder. -/
def Plain (read : L → Option Nat) : Template L V → Prop
  | fixed items => ∀ item ∈ items, read item = none
  | hole _ => True
  | append first second => first.Plain read ∧ second.Plain read
  | late first second => first.Plain read ∧ second.Plain read

/-- The fixed text from left to right. -/
def items : Template L V → List L
  | fixed items => items
  | hole _ => []
  | append first second => first.items ++ second.items
  | late first second => first.items ++ second.items

@[simp] theorem values_fixed (items : List L) : (fixed items : Template L V).values = [] := rfl
@[simp] theorem values_hole (value : V) : (hole value : Template L V).values = [value] := rfl
@[simp] theorem values_append (a b : Template L V) : (append a b).values = a.values ++ b.values := rfl
@[simp] theorem values_late (a b : Template L V) : (late a b).values = b.values ++ a.values := rfl
@[simp] theorem text_fixed (mark : Nat → L) (items : List L) (n : Nat) :
    (fixed items : Template L V).text mark n = items := rfl
@[simp] theorem text_hole (mark : Nat → L) (value : V) (n : Nat) :
    (hole value).text mark n = [mark (n + 1)] := rfl
@[simp] theorem text_append (mark : Nat → L) (a b : Template L V) (n : Nat) :
    (append a b).text mark n = a.text mark n ++ b.text mark (n + a.values.length) := rfl
@[simp] theorem text_late (mark : Nat → L) (a b : Template L V) (n : Nat) :
    (late a b).text mark n = a.text mark (n + b.values.length) ++ b.text mark n := rfl

/-- A text holds the fixed text and placeholders. -/
theorem mem_text {mark : Nat → L} {t : Template L V} {n : Nat} {item : L}
    (member : item ∈ t.text mark n) : item ∈ t.items ∨ ∃ k, item = mark k := by
  induction t generalizing n with
  | fixed items => exact Or.inl member
  | hole value => exact Or.inr ⟨n + 1, List.mem_singleton.mp member⟩
  | append first second ihFirst ihSecond | late first second ihFirst ihSecond =>
      rcases List.mem_append.mp member with inside | inside
      · exact (ihFirst inside).imp_left (List.mem_append_left _)
      · exact (ihSecond inside).imp_left (List.mem_append_right _)

/-! ### Separators -/

/-- The templates one after the other with a separator between them. -/
def separated (separator : List L) : List (Template L V) → Template L V
  | [] => .fixed []
  | [template] => template
  | template :: rest => .append (.append template (.fixed separator)) (separated separator rest)

/-- What templates have in common and their separator has, too, passes to the whole. -/
theorem separated_of_each {P : Template L V → Prop} {separator : List L} (empty : P (.fixed []))
    (between : P (.fixed separator)) (append : ∀ {a b}, P a → P b → P (.append a b))
    {templates : List (Template L V)} (each : ∀ t ∈ templates, P t) :
    P (separated separator templates) := by
  induction templates with
  | nil => exact empty
  | cons first rest ih =>
      obtain ⟨here, later⟩ := List.forall_mem_cons.mp each
      cases rest with
      | nil => exact here
      | cons next rest => exact append (append here between) (ih later)

@[simp] theorem values_separated (separator : List L) (templates : List (Template L V)) :
    (separated separator templates).values = templates.flatMap values := by
  induction templates with
  | nil => rfl
  | cons first rest ih =>
      cases rest with
      | nil => simp [separated]
      | cons next rest => simp [separated, ih]

/-! ### Replacing the values -/

/-- The template with other values in its holes. -/
def map {W : Type} (f : V → W) : Template L V → Template L W
  | fixed items => fixed items
  | hole value => hole (f value)
  | append first second => append (first.map f) (second.map f)
  | late first second => late (first.map f) (second.map f)

theorem map_separated {W : Type} (f : V → W) (separator : List L) (templates : List (Template L V)) :
    (separated separator templates).map f = separated separator (templates.map (·.map f)) := by
  induction templates with
  | nil => rfl
  | cons first rest ih =>
      cases rest with
      | nil => rfl
      | cons next rest => simp_all [separated, map]

@[simp] theorem values_map {W : Type} (f : V → W) (t : Template L V) :
    (t.map f).values = t.values.map f := by
  induction t with
  | fixed items => rfl
  | hole value => rfl
  | append first second ihFirst ihSecond => simp [map, ihFirst, ihSecond]
  | late first second ihFirst ihSecond => simp [map, ihFirst, ihSecond]

/-- The text does not depend on the values. -/
@[simp] theorem text_map {W : Type} (f : V → W) (mark : Nat → L) (t : Template L V) (n : Nat) :
    (t.map f).text mark n = t.text mark n := by
  induction t generalizing n with
  | fixed items => rfl
  | hole value => rfl
  | append first second ihFirst ihSecond => simp [map, ihFirst, ihSecond]
  | late first second ihFirst ihSecond => simp [map, ihFirst, ihSecond]

/-! ### Ordinals -/

@[simp] theorem ordinals_length (t : Template L V) (n : Nat) :
    (t.ordinals n).length = t.values.length := by
  induction t generalizing n with
  | fixed items => rfl
  | hole value => rfl
  | append first second ihFirst ihSecond => simp [ordinals, ihFirst, ihSecond]
  | late first second ihFirst ihSecond => simp [ordinals, ihFirst, ihSecond, Nat.add_comm]

/-- The ordinals number the filled holes without gap or repetition. -/
theorem ordinals_perm (t : Template L V) (n : Nat) :
    (t.ordinals n).Perm (List.range' (n + 1) t.values.length) := by
  induction t generalizing n with
  | fixed items => exact .refl _
  | hole value => exact .refl _
  | append first second ihFirst ihSecond =>
      have split : List.range' (n + 1) (append first second).values.length =
          List.range' (n + 1) first.values.length ++
            List.range' (n + first.values.length + 1) second.values.length := by
        rw [values_append, List.length_append, ← List.range'_append_1, Nat.add_right_comm]
      rw [split]
      exact (ihFirst n).append (ihSecond _)
  | late first second ihFirst ihSecond =>
      have split : List.range' (n + 1) (late first second).values.length =
          List.range' (n + 1) second.values.length ++
            List.range' (n + second.values.length + 1) first.values.length := by
        rw [values_late, List.length_append, ← List.range'_append_1, Nat.add_right_comm]
      rw [split]
      exact ((ihFirst _).append (ihSecond n)).trans List.perm_append_comm

/-- The ordinals count up from left to right exactly when no late part meets filled holes. -/
theorem ordinals_eq_range_iff (t : Template L V) (n : Nat) :
    t.ordinals n = List.range' (n + 1) t.values.length ↔ t.InOrder := by
  induction t generalizing n with
  | fixed items => simp [ordinals, InOrder]
  | hole value => simp [ordinals, InOrder]
  | append first second ihFirst ihSecond =>
      simp only [ordinals, values_append, List.length_append, InOrder, ← List.range'_append_1,
        ← ihFirst n, ← ihSecond (n + first.values.length), Nat.add_right_comm n _ 1]
      constructor
      · exact fun same => List.append_inj same (by simp)
      · rintro ⟨same, same'⟩
        rw [same, same']
  | late first second ihFirst ihSecond =>
      have bounded := ordinals_perm first (n + second.values.length)
      simp only [ordinals, values_late, List.length_append, InOrder, ← List.range'_append_1]
      cases filled : first.values with
      | nil =>
          have bare : first.ordinals (n + second.values.length) = [] := by
            rw [← List.length_eq_zero_iff, ordinals_length, filled]
            rfl
          have trivially : first.InOrder := by
            rw [← ihFirst (n + second.values.length), bare, filled]
            rfl
          simp [bare, ihSecond, trivially]
      | cons value values =>
          cases filled' : second.values with
          | nil =>
              have bare : second.ordinals n = [] := by
                rw [← List.length_eq_zero_iff, ordinals_length, filled']
                rfl
              have trivially : second.InOrder := by
                rw [← ihSecond n, bare, filled']
                rfl
              have inner := ihFirst n
              rw [filled] at inner
              simpa [bare, trivially] using inner
          | cons value' values' =>
              simp only [reduceCtorEq, or_self, and_false, iff_false]
              intro same
              -- the leftmost hole belongs to the part that is filled second
              have first_ : n + 1 ∈ first.ordinals (n + second.values.length) := by
                cases numbers : first.ordinals (n + second.values.length) with
                | nil =>
                    have := ordinals_length first (n + second.values.length)
                    simp [numbers, filled] at this
                | cons head tail =>
                    rw [← filled', numbers] at same
                    simp [filled', List.range'_succ] at same
                    simp [same.1]
              have inside := List.mem_range'_1.mp (bounded.mem_iff.mp first_)
              have some_ : 0 < second.values.length := by simp [filled']
              omega

/-- When text order and filling order agree, so do the two lists of values. -/
theorem InOrder.slots_eq {t : Template L V} (ordered : t.InOrder) : t.slots = t.values := by
  induction t with
  | fixed items => rfl
  | hole value => rfl
  | append first second ihFirst ihSecond =>
      rw [slots, values, ihFirst ordered.1, ihSecond ordered.2]
  | late first second ihFirst ihSecond =>
      obtain ⟨ordered, ordered', empty | empty⟩ := ordered
      · rw [slots, values, ihFirst ordered, ihSecond ordered', empty]
        simp
      · rw [slots, values, ihFirst ordered, ihSecond ordered', empty]
        simp

/-! ### Reading a text back -/

section Reading

variable {mark : Nat → L} {read : L → Option Nat}

theorem text_ordinals (reads : ∀ k, read (mark k) = some k) {t : Template L V} (plain : t.Plain read)
    (n : Nat) : (t.text mark n).filterMap read = t.ordinals n := by
  induction t generalizing n with
  | fixed items => exact List.filterMap_eq_nil_iff.mpr plain
  | hole value => simp [reads, ordinals]
  | append first second ihFirst ihSecond =>
      simp [ordinals, ihFirst plain.1, ihSecond plain.2]
  | late first second ihFirst ihSecond =>
      simp [ordinals, ihFirst plain.1, ihSecond plain.2]

/-- Write the value of each numbered placeholder in its place. -/
def fillNumbered (read : L → Option Nat) (shown : V → L) (parameters : List V) (text : List L) :
    List L :=
  text.map fun item =>
    match (read item).bind fun k => parameters[k - 1]? with
    | some value => shown value
    | none => item

theorem fillNumbered_text (reads : ∀ k, read (mark k) = some k) (shown : V → L) {t : Template L V}
    (plain : t.Plain read) (before after : List V) :
    fillNumbered read shown (before ++ t.values ++ after) (t.text mark before.length) =
      t.inline shown := by
  induction t generalizing before after with
  | fixed items =>
      refine (List.map_congr_left fun item member => ?_).trans (List.map_id items)
      simp [plain item member]
  | hole value => simp [fillNumbered, reads, inline]
  | append first second ihFirst ihSecond =>
      have left := ihFirst plain.1 before (second.values ++ after)
      have right := ihSecond plain.2 (before ++ first.values) after
      simp only [List.append_assoc, List.length_append] at left right
      simp only [fillNumbered] at left right ⊢
      rw [text_append, List.map_append, values_append, List.append_assoc, List.append_assoc, left,
        right, inline]
  | late first second ihFirst ihSecond =>
      have left := ihFirst plain.1 (before ++ second.values) after
      have right := ihSecond plain.2 before (first.values ++ after)
      simp only [List.append_assoc, List.length_append] at left right
      simp only [fillNumbered] at left right ⊢
      rw [text_late, List.map_append, values_late, List.append_assoc, List.append_assoc, left,
        right, inline]

/-- Write the values in the places of the placeholders from left to right. -/
def fillPositional (read : L → Option Nat) (shown : V → L) : List V → List L → List L
  | _, [] => []
  | parameters, item :: rest =>
      match read item, parameters with
      | some _, value :: later => shown value :: fillPositional read shown later rest
      | _, _ => item :: fillPositional read shown parameters rest

theorem fillPositional_append (shown : V → L) {first : List L} {values : List V}
    (enough : (first.filterMap read).length = values.length) (later : List V) (second : List L) :
    fillPositional read shown (values ++ later) (first ++ second) =
      fillPositional read shown values first ++ fillPositional read shown later second := by
  induction first generalizing values with
  | nil =>
      obtain rfl := List.length_eq_zero_iff.mp enough.symm
      rfl
  | cons item rest ih =>
      cases ordinal : read item with
      | none =>
          simp only [List.filterMap_cons, ordinal] at enough
          simp [fillPositional, ordinal, ih enough]
      | some k =>
          cases values with
          | nil => simp [ordinal] at enough
          | cons value values =>
              simp only [List.filterMap_cons, ordinal, List.length_cons, Nat.add_right_cancel_iff]
                at enough
              simp [fillPositional, ordinal, ih enough]

theorem slots_length (t : Template L V) : t.slots.length = t.values.length := by
  induction t with
  | fixed items => rfl
  | hole value => rfl
  | append first second ihFirst ihSecond => simp [slots, ihFirst, ihSecond]
  | late first second ihFirst ihSecond => simp [slots, ihFirst, ihSecond, Nat.add_comm]

theorem fillPositional_text (reads : ∀ k, read (mark k) = some k) (shown : V → L)
    {t : Template L V} (plain : t.Plain read) (n : Nat) :
    fillPositional read shown t.slots (t.text mark n) = t.inline shown := by
  induction t generalizing n with
  | fixed items =>
      change fillPositional read shown [] items = items
      induction items with
      | nil => rfl
      | cons item rest ih =>
          have none_ : read item = none := plain item List.mem_cons_self
          have later := ih fun other member => plain other (List.mem_cons_of_mem _ member)
          simp [fillPositional, none_, later]
  | hole value => simp [fillPositional, reads, inline, slots]
  | append first second ihFirst ihSecond =>
      rw [text_append, slots, fillPositional_append shown, ihFirst plain.1, ihSecond plain.2, inline]
      rw [text_ordinals reads plain.1, ordinals_length, slots_length]
  | late first second ihFirst ihSecond =>
      rw [text_late, slots, fillPositional_append shown, ihFirst plain.1, ihSecond plain.2, inline]
      rw [text_ordinals reads plain.1, ordinals_length, slots_length]

/-- Two renderings of one template differ exactly when they start at different ordinals and there
is a hole. -/
theorem text_eq_iff (reads : ∀ k, read (mark k) = some k) {t : Template L V} (plain : t.Plain read)
    (n m : Nat) : t.text mark n = t.text mark m ↔ n = m ∨ t.values = [] := by
  constructor
  · intro same
    have numbers : t.ordinals n = t.ordinals m := by
      rw [← text_ordinals reads plain, ← text_ordinals reads plain, same]
    cases filled : t.values with
    | nil => exact Or.inr rfl
    | cons value values =>
        have perm := (ordinals_perm t n).symm.trans (numbers ▸ ordinals_perm t m)
        have low := perm.mem_iff (a := n + 1)
        have low' := perm.mem_iff (a := m + 1)
        simp [filled, List.mem_range'_1] at low low'
        exact Or.inl (by omega)
  · rintro (rfl | empty)
    · rfl
    · clear plain
      induction t generalizing n m with
      | fixed items => rfl
      | hole value => cases empty
      | append first second ihFirst ihSecond =>
          obtain ⟨left, right⟩ := List.append_eq_nil_iff.mp empty
          rw [text_append, text_append, ihFirst _ m left, ihSecond _ (m + first.values.length) right]
      | late first second ihFirst ihSecond =>
          obtain ⟨right, left⟩ := List.append_eq_nil_iff.mp empty
          rw [text_late, text_late, ihFirst _ (m + second.values.length) left, ihSecond _ m right]

/-! ### Templates assembled from pieces -/

/-- The template consists of the pieces from left to right, separated by fixed text. -/
inductive Assembled (read : L → Option Nat) : List (Template L V) → Template L V → Prop where
  | fixed {items : List L} (plain : ∀ item ∈ items, read item = none) :
      Assembled read [] (.fixed items)
  | piece (t : Template L V) : Assembled read [t] t
  | append {pieces pieces' : List (Template L V)} {t t' : Template L V}
      (first : Assembled read pieces t) (second : Assembled read pieces' t') :
      Assembled read (pieces ++ pieces') (.append t t')

namespace Assembled

variable {pieces pieces' : List (Template L V)} {t : Template L V}

theorem of_eq (built : Assembled read pieces t) (same : pieces = pieces') :
    Assembled read pieces' t :=
  same ▸ built

theorem values (built : Assembled read pieces t) :
    t.values = pieces.flatMap Template.values := by
  induction built with
  | fixed plain => rfl
  | piece t => simp
  | append first second ihFirst ihSecond => simp [ihFirst, ihSecond]

theorem plain (built : Assembled read pieces t) (each : ∀ piece ∈ pieces, piece.Plain read) :
    t.Plain read := by
  induction built with
  | fixed plain => exact plain
  | piece t => exact each t List.mem_cons_self
  | append first second ihFirst ihSecond =>
      exact ⟨ihFirst fun piece member => each piece (List.mem_append_left _ member),
        ihSecond fun piece member => each piece (List.mem_append_right _ member)⟩

theorem inOrder_iff (built : Assembled read pieces t) :
    t.InOrder ↔ ∀ piece ∈ pieces, piece.InOrder := by
  induction built with
  | fixed plain => simp [InOrder]
  | piece t => simp
  | append first second ihFirst ihSecond =>
      simp only [InOrder, ihFirst, ihSecond, List.mem_append]
      constructor
      · rintro ⟨left, right⟩ piece (member | member)
        · exact left piece member
        · exact right piece member
      · exact fun all => ⟨fun piece member => all piece (Or.inl member),
          fun piece member => all piece (Or.inr member)⟩

theorem total_values (pieces : List (Template L V)) :
    Offsets.total (·.values.length) pieces = (pieces.flatMap Template.values).length := by
  induction pieces with
  | nil => rfl
  | cons piece rest ih => simp [Offsets.total, ih]

/-- Each piece stands in the text with the ordinals that are due where it is filled. -/
theorem text_within {mark : Nat → L} (built : Assembled read pieces t) {n m : Nat}
    {piece : Template L V} (placed : (m, piece) ∈ Offsets.offsets (·.values.length) n pieces) :
    piece.text mark m <:+: t.text mark n := by
  induction built generalizing n with
  | fixed plain => cases placed
  | piece t =>
      obtain ⟨rfl, rfl⟩ : m = n ∧ piece = t := by simpa [Offsets.offsets] using placed
      exact List.infix_rfl
  | append first second ihFirst ihSecond =>
      rw [Offsets.offsets_append, total_values, ← first.values] at placed
      rw [text_append]
      rcases List.mem_append.mp placed with left | right
      · exact (ihFirst left).trans ⟨[], _, rfl⟩
      · exact (ihSecond right).trans ⟨_, [], List.append_nil _⟩

end Assembled

/-- Several templates, assembled from the pieces one after the other. -/
inductive AssembledEach (read : L → Option Nat) : List (Template L V) → List (Template L V) → Prop where
  | nil : AssembledEach read [] []
  | cons {pieces later rest : List (Template L V)} {t : Template L V}
      (first : Assembled read pieces t) (others : AssembledEach read later rest) :
      AssembledEach read (pieces ++ later) (t :: rest)

namespace AssembledEach

variable {pieces pieces' templates templates' : List (Template L V)}

theorem of_eq (built : AssembledEach read pieces templates) (same : pieces = pieces') :
    AssembledEach read pieces' templates :=
  same ▸ built

theorem self (templates : List (Template L V)) : AssembledEach read templates templates := by
  induction templates with
  | nil => exact .nil
  | cons t rest ih => exact .cons (.piece t) ih

/-- A separator without placeholders leaves the pieces as they are. -/
theorem separated {separator : List L} (plain : ∀ item ∈ separator, read item = none)
    (each : AssembledEach read pieces templates) :
    Assembled read pieces (.separated separator templates) := by
  induction each with
  | nil => exact .fixed (fun _ member => absurd member List.not_mem_nil)
  | @cons pieces later rest t first others ih =>
      cases others with
      | nil => exact first.of_eq (List.append_nil _).symm
      | cons next others =>
          have behind : Assembled read pieces (.append t (.fixed separator)) :=
            (Assembled.append first (.fixed plain)).of_eq (List.append_nil _)
          exact .append behind ih

theorem append (first : AssembledEach read pieces templates)
    (second : AssembledEach read pieces' templates') :
    AssembledEach read (pieces ++ pieces') (templates ++ templates') := by
  induction first with
  | nil => exact second
  | cons head others ih => exact (AssembledEach.cons head ih).of_eq (List.append_assoc ..).symm

end AssembledEach

end Reading

end Template

end Templates
