/-
# What the case maps do to what they made

Both case maps are of one kind: the letters of ASCII are moved by arithmetic,
which is a run like those of a table, and other characters are looked up in a
table (`Case.Map`). A map leaves alone what it has made (`upper_of_mem_upper`,
`lower_of_mem_lower`), it makes something of every character, and an
underscore of nothing else. The two maps do not undo each other, since a
capital may have several small letters. But what a capital is lowered to is
what its own capital is lowered to (`exists_upper_of_mem_lower`), with one
exception: the capital sharp s is lowered to `ß`, which has no single capital.

All this is about tables that name about three thousand code points, too many
to be tried one by one. So a set of code points is a number here, which has a
bit for each of them: a run gives a comb of bits at equal steps (`Case.comb`),
and whether two sets have a code point in common is seen at once. What has
been found out about the tables comes with the maps (`Case.Pair`).

Key definitions: `Case.union`, `Case.comb`, `Case.Map`, `Case.Map.Settled`,
`Case.Pair`, `Case.maps`.
Key theorems: `Case.Map.Settled.apply_of_mem_apply`,
`Case.Pair.exists_up_of_mem_down`, `Case.upper_of_mem_upper`,
`Case.bar_of_mem_upper`, `Case.exists_upper_of_mem_lower`.
-/
import Mathlib.Data.List.Chain
import Mathlib.Data.Nat.Bitwise
import ResourceTemplate.Text.Case

namespace ResourceTemplate
namespace Case

/-! ### Sets of code points -/

/-- The union of sets of code points. -/
def union (sets : List Nat) : Nat := sets.foldr (· ||| ·) 0

/-- The set of the listed code points. -/
def points (ns : List Nat) : Nat := union (ns.map (2 ^ ·))

/-- A number with `count` bits, the first one at the end and each `step` places
from the one before. -/
def comb (step count : Nat) : Nat := (2 ^ (step * count) - 1) / (2 ^ step - 1)

/-! ### Runs -/

namespace Run

/-- How far the code points of a run are behind its first. -/
def offsets (r : Run) : Nat := comb r.step ((r.last - r.first) / r.step + 1)

/-- The code points that a run names. -/
def source (r : Run) : Nat := r.offsets <<< r.first

/-- The code points that a run maps to. -/
def made (r : Run) : Nat := r.offsets <<< r.target

/-- Whether the code points that a run maps to are those of characters. -/
def Valid (r : Run) : Prop := r.target + (r.last - r.first) < 0xD800 ∨
  0xDFFF < r.target ∧ r.target + (r.last - r.first) < 0x110000

instance (r : Run) : Decidable r.Valid := inferInstanceAs (Decidable (_ ∨ _))

/-- Whether a run maps back what another run has mapped. -/
def undoneBy (r s : Run) : Bool :=
  s.target + r.target == r.first + s.first && (s.first ≤ r.target && (r.target + (r.last - r.first) ≤ s.last &&
    ((r.target - s.first) % s.step == 0 && (r.first == r.last || r.step % s.step == 0))))

/-- The run of an ordered table in which a code point lies, if in any: it is
looked for in one half of the first `2 ^ k` runs, and in one half of these. -/
def seek (n : Nat) : Nat → List Run → Option Run
  | 0, runs => runs.head?
  | k + 1, runs =>
    match (runs.take (2 ^ k)).getLast? with
    | none => none
    | some s => if n.ble s.last then seek n k (runs.take (2 ^ k)) else seek n k (runs.drop (2 ^ k))

end Run

/-! ### Case maps -/

/-- A case map: what it does to characters of ASCII, which is to move the
letters of a run, and its table. -/
structure Map where
  ascii : Char → Char
  letters : Run
  runs : List Run
  expansions : List (Nat × List Nat)

namespace Map

/-- What a character is mapped to. -/
def apply (m : Map) (c : Char) : List Char :=
  if c.toNat < 0x80 then [m.ascii c] else (image m.runs m.expansions c.toNat).map Char.ofNat

/-- The runs of the map, with the one of ASCII first. -/
def table (m : Map) : List Run := m.letters :: m.runs

/-- The code points that are mapped to several. -/
def expanded (m : Map) : List Nat := m.expansions.map (·.1)

/-- The code points that the map changes. -/
def changed (m : Map) : Nat := points m.expanded ||| union (m.table.map Run.source)

/-- The code points that it makes of them. -/
def made (m : Map) : Nat := points (m.expansions.flatMap (·.2)) ||| union (m.table.map Run.made)

/-- A map that makes characters, none of which it would change, and no
underscore. -/
structure Settled (m : Map) : Prop where
  ascii : ∀ n : Fin 128, (m.ascii (Char.ofNat n)).toNat = if m.letters.covers n then m.letters.image n else n
  expansions : ∀ e ∈ m.expansions, 0x80 ≤ e.1 ∧ 2 ≤ e.2.length ∧ ∀ n ∈ e.2, n.isValidChar
  runs : ∀ r ∈ m.table, 0 < r.step ∧ r.Valid
  apart : m.changed &&& m.made = 0
  bar : m.made.testBit '_'.toNat = false

instance (m : Map) : Decidable m.Settled :=
  decidable_of_iff (_ ∧ _ ∧ _ ∧ _ ∧ _) ⟨fun ⟨h₁, h₂, h₃, h₄, h₅⟩ => ⟨h₁, h₂, h₃, h₄, h₅⟩,
    fun h => ⟨h.ascii, h.expansions, h.runs, h.apart, h.bar⟩⟩

end Map

/-! ### The two maps -/

/-- Whether a table has a run that maps back what a run has mapped. -/
def Run.isUndone (r : Run) (table : List Run) : Bool := (Run.seek r.target 8 table).any r.undoneBy

/-- What the tables of a map to upper case and one to lower case say of each
other.

No code point that the map to lower case makes is in a run to upper case which
is not undone. Where it makes one that has several characters in upper case,
the code point it comes from has several as well, or is the capital sharp s.
The map to upper case never makes that one, and leaves it alone. -/
structure Matched (up down : Map) : Prop where
  undone : union ((up.table.filter (!·.isUndone down.table)).map Run.source) &&& down.made = 0
  ordered : down.table.IsChain fun r s => r.first ≤ r.last ∧ r.last < s.first
  beyond : down.letters.last < 0x80 ∧ ∀ r ∈ down.runs, 0x80 ≤ r.first ∧ ∀ n ∈ down.expanded, r.covers n = false
  expansions : ∀ e ∈ down.expansions, ∀ n ∈ e.2, n ∉ up.expanded
  runs : ∀ r ∈ down.table, r.offsets &&& points up.expanded >>> r.target &&&
    points (0x1E9E :: up.expanded) >>> r.first = r.offsets &&& points up.expanded >>> r.target
  sharp : up.made.testBit 'ẞ'.toNat = false ∧ up.apply 'ẞ' = ['ẞ'] ∧ down.apply 'ẞ' = ['ß']

instance (up down : Map) : Decidable (Matched up down) :=
  decidable_of_iff (_ ∧ _ ∧ _ ∧ _ ∧ _ ∧ _) ⟨fun ⟨h₁, h₂, h₃, h₄, h₅, h₆⟩ => ⟨h₁, h₂, h₃, h₄, h₅, h₆⟩,
    fun h => ⟨h.undone, h.ordered, h.beyond, h.expansions, h.runs, h.sharp⟩⟩

/-- Two settled maps whose tables match. -/
structure Pair where
  up : Map
  down : Map
  up_settled : up.Settled
  down_settled : down.Settled
  matched : Matched up down

/-- The case maps. -/
def maps : Pair where
  up := ⟨Char.toUpper, ⟨0x61, 0x7A, 1, 0x41⟩, upperRuns, upperExpansions⟩
  down := ⟨Char.toLower, ⟨0x41, 0x5A, 1, 0x61⟩, lowerRuns, lowerExpansions⟩
  up_settled := by decide +kernel
  down_settled := by decide +kernel
  matched := by decide +kernel

/-! ### Members of sets -/

theorem testBit_union {n : Nat} {sets : List Nat} : (union sets).testBit n ↔ ∃ s ∈ sets, s.testBit n := by
  induction sets with
  | nil => simp [union]
  | cons s sets ih =>
    have hcons : union (s :: sets) = s ||| union sets := rfl
    rw [hcons, Nat.testBit_or, Bool.or_eq_true, ih, List.exists_mem_cons_iff]

theorem testBit_points {n : Nat} {ns : List Nat} : (points ns).testBit n ↔ n ∈ ns := by
  rw [points, testBit_union]
  constructor
  · rintro ⟨s, hs, hn⟩
    obtain ⟨m, hm, rfl⟩ := List.mem_map.1 hs
    rw [Nat.testBit_two_pow, decide_eq_true_iff] at hn
    rwa [← hn]
  · intro hn
    exact ⟨2 ^ n, List.mem_map.2 ⟨n, hn, rfl⟩, Nat.testBit_two_pow_self⟩

/-- Of two sets without a common member, what is in one is not in the other. -/
theorem testBit_of_apart {s t : Nat} (h : s &&& t = 0) {n : Nat} (ht : t.testBit n) : s.testBit n = false := by
  have hboth : (s &&& t).testBit n = false := by rw [h, Nat.zero_testBit]
  rwa [Nat.testBit_and, ht, Bool.and_true] at hboth

theorem comb_succ {step : Nat} (hstep : 0 < step) (count : Nat) :
    comb step (count + 1) = 2 ^ (step * count) ||| comb step count := by
  have hgap : 0 < 2 ^ step - 1 := Nat.sub_pos_of_lt (Nat.one_lt_two_pow hstep.ne')
  have hpos : 0 < 2 ^ (step * count) := Nat.two_pow_pos _
  have hsplit : 2 ^ (step * (count + 1)) - 1 =
      (2 ^ (step * count) - 1) + 2 ^ (step * count) * (2 ^ step - 1) := by
    have hmul : 2 ^ (step * count) * 2 ^ step = 2 ^ (step * count) * (2 ^ step - 1) + 2 ^ (step * count) := by
      rw [← Nat.mul_succ, Nat.succ_eq_add_one, Nat.sub_add_cancel Nat.one_le_two_pow]
    rw [Nat.mul_succ, Nat.pow_add, hmul]
    omega
  have hlow : comb step count < 2 ^ (step * count) :=
    Nat.lt_of_le_of_lt (Nat.div_le_self _ _) (Nat.sub_one_lt hpos.ne')
  calc comb step (count + 1)
      = comb step count + 2 ^ (step * count) := by rw [comb, hsplit, Nat.add_mul_div_right _ _ hgap]; rfl
    _ = 2 ^ (step * count) * 1 + comb step count := by rw [Nat.mul_one, Nat.add_comm]
    _ = 2 ^ (step * count) ||| comb step count := by rw [Nat.two_pow_add_eq_or_of_lt hlow, Nat.mul_one]

theorem testBit_comb {step count k : Nat} (hstep : 0 < step) (hk : k < count) :
    (comb step count).testBit (step * k) := by
  induction count with
  | zero => exact absurd hk (Nat.not_lt_zero k)
  | succ count ih =>
    rw [comb_succ hstep, Nat.testBit_or, Bool.or_eq_true]
    rcases Nat.lt_succ_iff_lt_or_eq.1 hk with hk | rfl
    · exact .inr (ih hk)
    · exact .inl Nat.testBit_two_pow_self

/-! ### Looking up a table -/

theorem toNat_ofNat {n : Nat} (h : n.isValidChar) : (Char.ofNat n).toNat = n := by
  rw [Char.ofNat, dif_pos h]
  rfl

/-- What holds of the characters of ASCII can be found out by trying them
all. -/
theorem forall_ascii {P : Char → Prop} (h : ∀ n : Fin 128, P (Char.ofNat n)) {c : Char}
    (hc : c.toNat < 0x80) : P c := by
  have hP : P (Char.ofNat c.toNat) := h ⟨c.toNat, hc⟩
  rwa [Char.ofNat_toNat] at hP

namespace Run

variable {r s : Run} {n : Nat}

theorem covers_iff : r.covers n ↔ r.first ≤ n ∧ n ≤ r.last ∧ r.step ∣ n - r.first := by
  rw [covers, Bool.and_eq_true, Bool.and_eq_true, decide_eq_true_iff, decide_eq_true_iff, beq_iff_eq,
    Nat.dvd_iff_mod_eq_zero, and_assoc]

theorem testBit_offsets (hstep : 0 < r.step) (h : r.covers n) : r.offsets.testBit (n - r.first) := by
  obtain ⟨hfirst, hlast, k, hk⟩ := covers_iff.1 h
  have hplace : k < (r.last - r.first) / r.step + 1 := by
    rw [Nat.lt_succ_iff, Nat.le_div_iff_mul_le hstep, Nat.mul_comm, ← hk]
    exact Nat.sub_le_sub_right hlast _
  rw [hk]
  exact testBit_comb hstep hplace

theorem testBit_source (hstep : 0 < r.step) (h : r.covers n) : r.source.testBit n := by
  rw [source, Nat.testBit_shiftLeft, testBit_offsets hstep h, Bool.and_true, decide_eq_true_iff]
  exact (covers_iff.1 h).1

theorem testBit_made (hstep : 0 < r.step) (h : r.covers n) : r.made.testBit (r.image n) := by
  rw [made, Nat.testBit_shiftLeft, image, Nat.add_sub_cancel_left, testBit_offsets hstep h, Bool.and_true,
    decide_eq_true_iff]
  exact Nat.le_add_right _ _

theorem Valid.image (hvalid : r.Valid) (h : r.covers n) : (r.image n).isValidChar := by
  obtain ⟨hfirst, hlast, -⟩ := covers_iff.1 h
  have himage : r.image n = r.target + (n - r.first) := rfl
  rcases hvalid with hlow | ⟨hlow, hhigh⟩
  · exact .inl (by omega)
  · exact .inr ⟨by omega, by omega⟩

/-- In a table whose runs come one after the other, a code point is found in
the run that names it. -/
theorem find?_of_covers (hn : r.covers n) : ∀ {runs : List Run},
    runs.Pairwise (·.last < ·.first) → r ∈ runs → runs.find? (fun s => s.covers n) = some r
  | s :: rest, hordered, hr => by
    rw [List.pairwise_cons] at hordered
    rw [List.find?_cons]
    rcases List.mem_cons.1 hr with rfl | hr
    · rw [hn]
    · have hbefore : s.covers n = false := by
        rw [Bool.eq_false_iff]
        intro hs
        have hafter : s.last < r.first := hordered.1 r hr
        have hfirst : r.first ≤ n := (covers_iff.1 hn).1
        have hlast : n ≤ s.last := (covers_iff.1 hs).2.1
        omega
      rw [hbefore]
      exact find?_of_covers hn hordered.2 hr

theorem undoneBy_iff : r.undoneBy s ↔ s.target + r.target = r.first + s.first ∧
    s.first ≤ r.target ∧ r.target + (r.last - r.first) ≤ s.last ∧ s.step ∣ r.target - s.first ∧
    (r.first = r.last ∨ s.step ∣ r.step) := by
  simp only [undoneBy, Bool.and_eq_true, Bool.or_eq_true, decide_eq_true_iff, beq_iff_eq,
    Nat.dvd_iff_mod_eq_zero]

theorem image_of_undoneBy (h : r.undoneBy s) (hn : r.covers n) :
    s.covers (r.image n) ∧ s.image (r.image n) = n := by
  obtain ⟨hback, hlow, hhigh, hstart, hstep⟩ := undoneBy_iff.1 h
  obtain ⟨hfirst, hlast, hplace⟩ := covers_iff.1 hn
  have hsteps : s.step ∣ n - r.first := by
    rcases hstep with hpoint | hstep
    · have hzero : n - r.first = 0 := by omega
      rw [hzero]
      exact Nat.dvd_zero _
    · exact hstep.trans hplace
  have hshift : r.image n - s.first = (r.target - s.first) + (n - r.first) := by
    rw [image]
    omega
  refine ⟨covers_iff.2 ⟨?_, ?_, ?_⟩, ?_⟩
  · rw [image]
    omega
  · rw [image]
    omega
  · rw [hshift]
    exact Nat.dvd_add hstart hsteps
  · rw [image, hshift]
    omega

theorem mem_of_seek : ∀ {k : Nat} {runs : List Run}, seek n k runs = some s → s ∈ runs
  | 0, runs, h => List.mem_of_head? h
  | k + 1, runs, h => by
    rw [seek] at h
    cases hlast : (runs.take (2 ^ k)).getLast? with
    | none =>
      rw [hlast] at h
      exact absurd h (Option.some_ne_none s).symm
    | some t =>
      rw [hlast] at h
      by_cases hside : n.ble t.last
      · exact List.mem_of_mem_take (mem_of_seek ((if_pos hside).symm.trans h))
      · exact List.mem_of_mem_drop (mem_of_seek ((if_neg hside).symm.trans h))

theorem exists_of_isUndone {table : List Run} (h : r.isUndone table) : ∃ s ∈ table, r.undoneBy s := by
  obtain ⟨s, hs, hundone⟩ := (Option.any_eq_true _ _).1 h
  exact ⟨s, mem_of_seek hs, hundone⟩

end Run

/-- A code point is expanded, or in a run, or maps to itself. -/
theorem image_cases (runs : List Run) (expansions : List (Nat × List Nat)) (n : Nat) :
    (∃ e ∈ expansions, e.1 = n ∧ image runs expansions n = e.2) ∨
    n ∉ expansions.map (·.1) ∧
      ((∃ r ∈ runs, r.covers n ∧ image runs expansions n = [r.image n]) ∨ image runs expansions n = [n]) := by
  cases hlookup : expansions.lookup n with
  | some ns =>
    obtain ⟨before, behind, hsplit, -⟩ := List.lookup_eq_some_iff.1 hlookup
    refine .inl ⟨(n, ns), ?_, rfl, by rw [image, hlookup]⟩
    rw [hsplit]
    exact List.mem_append_right _ List.mem_cons_self
  | none =>
    refine .inr ⟨?_, ?_⟩
    · intro hn
      obtain ⟨e, he, hen⟩ := List.mem_map.1 hn
      have hne := List.lookup_eq_none_iff.1 hlookup e he
      simp [hen] at hne
    · cases hfind : runs.find? (fun r => r.covers n) with
      | some r =>
        have hcovers : r.covers n := List.find?_some (p := fun r : Run => r.covers n) hfind
        exact .inl ⟨r, List.mem_of_find?_eq_some hfind, hcovers, by rw [image, hlookup, hfind]⟩
      | none => exact .inr (by rw [image, hlookup, hfind])

/-! ### What a settled map does -/

namespace Map

variable {m : Map} {c d : Char} {r : Run}

theorem Settled.toNat_ascii (h : m.Settled) (hc : c.toNat < 0x80) :
    (m.ascii c).toNat = if m.letters.covers c.toNat then m.letters.image c.toNat else c.toNat := by
  have hascii := h.ascii ⟨c.toNat, hc⟩
  rwa [Char.ofNat_toNat] at hascii

/-- What stands in the image of a character comes from an expansion or a run,
or is the character itself. -/
theorem Settled.mem_apply_cases (h : m.Settled) (hd : d ∈ m.apply c) :
    (∃ e ∈ m.expansions, e.1 = c.toNat ∧ d.toNat ∈ e.2) ∨
    (∃ r ∈ m.table, r.covers c.toNat ∧ d.toNat = r.image c.toNat) ∨ m.apply c = [c] := by
  by_cases hascii : c.toNat < 0x80
  · rw [apply, if_pos hascii] at hd ⊢
    rw [List.mem_singleton] at hd
    have hmoved := h.toNat_ascii hascii
    rw [← hd] at hmoved ⊢
    by_cases hletter : m.letters.covers c.toNat
    · rw [if_pos hletter] at hmoved
      exact .inr (.inl ⟨m.letters, List.mem_cons_self, hletter, hmoved⟩)
    · rw [if_neg hletter] at hmoved
      rw [Char.toNat_inj.1 hmoved]
      exact .inr (.inr rfl)
  · rw [apply, if_neg hascii] at hd ⊢
    obtain ⟨n, hn, rfl⟩ := List.mem_map.1 hd
    rcases image_cases m.runs m.expansions c.toNat with
      ⟨e, he, hc, himage⟩ | ⟨-, ⟨r, hr, hcovers, himage⟩ | hself⟩
    · rw [himage] at hn
      rw [toNat_ofNat ((h.expansions e he).2.2 n hn)]
      exact .inl ⟨e, he, hc, hn⟩
    · rw [himage, List.mem_singleton] at hn
      have htable : r ∈ m.table := List.mem_cons_of_mem _ hr
      rw [hn, toNat_ofNat ((h.runs r htable).2.image hcovers)]
      exact .inr (.inl ⟨r, htable, hcovers, rfl⟩)
    · rw [hself, List.map_singleton, Char.ofNat_toNat]
      exact .inr (.inr rfl)

theorem Settled.mem_made (h : m.Settled) (hd : d ∈ m.apply c) : m.apply c = [c] ∨ m.made.testBit d.toNat := by
  rw [made, Nat.testBit_or, Bool.or_eq_true, testBit_points, testBit_union]
  rcases h.mem_apply_cases hd with ⟨e, he, -, hd⟩ | ⟨r, hr, hcovers, hd⟩ | hself
  · exact .inr (.inl (List.mem_flatMap.2 ⟨e, he, hd⟩))
  · rw [hd]
    exact .inr (.inr ⟨r.made, List.mem_map.2 ⟨r, hr, rfl⟩, Run.testBit_made (h.runs r hr).1 hcovers⟩)
  · exact .inl hself

/-- What the map does not make comes of nothing else. -/
theorem Settled.eq_of_mem_apply (h : m.Settled) (hd : d ∈ m.apply c) (hmade : m.made.testBit d.toNat = false) :
    d = c := by
  rcases h.mem_made hd with hself | hmade'
  · rw [hself] at hd
    exact List.mem_singleton.1 hd
  · rw [hmade] at hmade'
    exact absurd hmade' Bool.false_ne_true

theorem Settled.apply_ne_nil (h : m.Settled) (c : Char) : m.apply c ≠ [] := by
  rw [apply]
  by_cases hascii : c.toNat < 0x80
  · rw [if_pos hascii]
    exact List.cons_ne_nil _ _
  · rw [if_neg hascii, Ne, List.map_eq_nil_iff]
    rcases image_cases m.runs m.expansions c.toNat with ⟨e, he, -, himage⟩ | ⟨-, ⟨r, -, -, himage⟩ | hself⟩
    · rw [himage]
      exact List.ne_nil_of_length_pos (Nat.lt_of_lt_of_le Nat.two_pos (h.expansions e he).2.1)
    · rw [himage]
      exact List.cons_ne_nil _ _
    · rw [hself]
      exact List.cons_ne_nil _ _

/-- One character only comes of what is not expanded. -/
theorem Settled.exists_apply_eq_iff (h : m.Settled) : (∃ d, m.apply c = [d]) ↔ c.toNat ∉ m.expanded := by
  constructor
  · rintro ⟨d, hd⟩ hc
    obtain ⟨e, he, hec⟩ := List.mem_map.1 hc
    have hbeyond : 0x80 ≤ c.toNat := hec ▸ (h.expansions e he).1
    rw [apply, if_neg (Nat.not_lt.2 hbeyond)] at hd
    rcases image_cases m.runs m.expansions c.toNat with ⟨e', he', -, himage⟩ | ⟨hnone, -⟩
    · have htwo : 2 ≤ e'.2.length := (h.expansions e' he').2.1
      have hlength : e'.2.length = 1 := by rw [← himage, ← List.length_map, hd, List.length_singleton]
      omega
    · exact hnone hc
  · intro hc
    rw [apply]
    by_cases hascii : c.toNat < 0x80
    · exact ⟨_, if_pos hascii⟩
    · rw [if_neg hascii]
      rcases image_cases m.runs m.expansions c.toNat with ⟨e, he, hec, -⟩ | ⟨-, ⟨r, -, -, himage⟩ | hself⟩
      · exact absurd (List.mem_map.2 ⟨e, he, hec⟩) hc
      · exact ⟨_, by rw [himage, List.map_singleton]⟩
      · exact ⟨_, by rw [hself, List.map_singleton]⟩

theorem Settled.apply_of_not_changed (h : m.Settled) (hc : m.changed.testBit c.toNat = false) :
    m.apply c = [c] := by
  rw [changed, Nat.testBit_or, Bool.or_eq_false_iff, Bool.eq_false_iff, Bool.eq_false_iff, Ne, Ne,
    testBit_points, testBit_union] at hc
  obtain ⟨hexpanded, hrun⟩ := hc
  obtain ⟨d, hd⟩ := h.exists_apply_eq_iff.2 hexpanded
  have hmem : d ∈ m.apply c := by rw [hd]; exact List.mem_singleton_self d
  rcases h.mem_apply_cases hmem with ⟨e, he, hec, -⟩ | ⟨r, hr, hcovers, -⟩ | hself
  · exact absurd (List.mem_map.2 ⟨e, he, hec⟩) hexpanded
  · exact absurd ⟨r.source, List.mem_map.2 ⟨r, hr, rfl⟩, Run.testBit_source (h.runs r hr).1 hcovers⟩ hrun
  · exact hself

/-- **A settled map leaves alone what it made.** -/
theorem Settled.apply_of_mem_apply (h : m.Settled) (hd : d ∈ m.apply c) : m.apply d = [d] := by
  rcases h.mem_made hd with hself | hmade
  · rw [hself, List.mem_singleton] at hd
    rw [hd, hself]
  · exact h.apply_of_not_changed (testBit_of_apart h.apart hmade)

end Map

/-! ### To lower case and back -/

namespace Pair

variable {p : Pair} {c d u : Char} {r : Run} {n : Nat}

/-- The runs to lower case come one after the other. -/
theorem down_ordered (p : Pair) : p.down.runs.Pairwise (·.last < ·.first) := by
  have htrans : IsTrans Run fun r s => r.first ≤ r.last ∧ r.last < s.first :=
    ⟨fun r s t hrs hst => ⟨hrs.1, by omega⟩⟩
  have htable := (List.isChain_iff_pairwise.1 p.matched.ordered).imp And.right
  exact (List.pairwise_cons.1 htable).2

theorem down_of_covers (hr : r ∈ p.down.table) (hc : r.covers c.toNat) :
    p.down.apply c = [Char.ofNat (r.image c.toNat)] := by
  obtain ⟨hletters, hruns⟩ := p.matched.beyond
  obtain ⟨hfirst, hlast, -⟩ := Run.covers_iff.1 hc
  rcases List.mem_cons.1 hr with rfl | hr
  · have hascii : c.toNat < 0x80 := Nat.lt_of_le_of_lt hlast hletters
    have hmoved := p.down_settled.toNat_ascii hascii
    rw [if_pos hc] at hmoved
    rw [Map.apply, if_pos hascii, ← hmoved, Char.ofNat_toNat]
  · obtain ⟨hbeyond, hexpanded⟩ := hruns r hr
    have hlookup : p.down.expansions.lookup c.toNat = none := by
      rw [List.lookup_eq_none_iff]
      intro e he
      have hcovers : r.covers e.1 = false := hexpanded e.1 (List.mem_map.2 ⟨e, he, rfl⟩)
      have hne : c.toNat ≠ e.1 := by
        intro heq
        rw [← heq, hc] at hcovers
        exact Bool.noConfusion hcovers
      simpa using hne
    rw [Map.apply, if_neg (Nat.not_lt.2 (hbeyond.trans hfirst)), image, hlookup,
      Run.find?_of_covers hc p.down_ordered hr]
    rfl

/-- What has several characters in upper case is the lower case of the capital
sharp s, or of a character that has several itself. -/
theorem down_to_expanded (hr : r ∈ p.down.table) (hn : r.covers n) (h : r.image n ∈ p.up.expanded) :
    n = 0x1E9E ∨ n ∈ p.up.expanded := by
  have hoffset : r.offsets.testBit (n - r.first) := Run.testBit_offsets (p.down_settled.runs r hr).1 hn
  have himage : (points p.up.expanded >>> r.target).testBit (n - r.first) := by
    rw [Nat.testBit_shiftRight]
    exact testBit_points.2 h
  have hsource := congrArg (·.testBit (n - r.first)) (p.matched.runs r hr)
  simp only [Nat.testBit_and, hoffset, himage, Bool.and_true, Bool.true_and, Nat.testBit_shiftRight,
    Nat.add_sub_cancel' (Run.covers_iff.1 hn).1] at hsource
  exact List.mem_cons.1 (testBit_points.1 hsource)

/-- Any other capital is lowered to what has one character in upper case. -/
theorem not_expanded_of_mem_down (hu : p.up.apply u = [u]) (hsharp : u ≠ 'ẞ') (hd : d ∈ p.down.apply u) :
    d.toNat ∉ p.up.expanded := by
  have hsingle : u.toNat ∉ p.up.expanded := p.up_settled.exists_apply_eq_iff.1 ⟨u, hu⟩
  rcases p.down_settled.mem_apply_cases hd with ⟨e, he, -, hd⟩ | ⟨r, hr, hcovers, hd⟩ | hself
  · exact p.matched.expansions e he d.toNat hd
  · intro hexpanded
    rw [hd] at hexpanded
    rcases down_to_expanded hr hcovers hexpanded with hpoint | hexpanded'
    · exact hsharp (Char.toNat_inj.1 hpoint)
    · exact hsingle hexpanded'
  · rw [hself, List.mem_singleton] at hd
    rwa [hd]

/-- What the map to lower case makes is in undone runs only. -/
theorem isUndone_of_covers (hmade : p.down.made.testBit n) (hr : r ∈ p.up.table) (hn : r.covers n) :
    r.isUndone p.down.table := by
  by_contra hnot
  have hout := testBit_of_apart p.matched.undone hmade
  rw [Bool.eq_false_iff, Ne, testBit_union] at hout
  refine hout ⟨r.source, List.mem_map.2 ⟨r, List.mem_filter.2 ⟨hr, by simpa using hnot⟩, rfl⟩, ?_⟩
  exact Run.testBit_source (p.up_settled.runs r hr).1 hn

/-- What a capital is lowered to comes back from its own capital. -/
theorem exists_up_of_mem_down (hu : p.up.apply u = [u]) (hsharp : u ≠ 'ẞ') (hd : d ∈ p.down.apply u) :
    ∃ e, p.up.apply d = [e] ∧ p.down.apply e = [d] := by
  have hsingle : d.toNat ∉ p.up.expanded := not_expanded_of_mem_down hu hsharp hd
  obtain ⟨e, he⟩ := p.up_settled.exists_apply_eq_iff.2 hsingle
  have hmem : e ∈ p.up.apply d := by rw [he]; exact List.mem_singleton_self e
  refine ⟨e, he, ?_⟩
  rcases p.down_settled.mem_made hd with hself | hmade
  · rw [hself, List.mem_singleton] at hd
    rw [hd, hu] at he
    obtain rfl : u = e := List.singleton_inj.1 he
    rw [hself, hd]
  · rcases p.up_settled.mem_apply_cases hmem with ⟨e', he', hkey, -⟩ | ⟨r, hr, hcovers, himage⟩ | hself
    · exact absurd (List.mem_map.2 ⟨e', he', hkey⟩) hsingle
    · obtain ⟨s, hs, hback⟩ := Run.exists_of_isUndone (isUndone_of_covers hmade hr hcovers)
      obtain ⟨hcovers', himage'⟩ := Run.image_of_undoneBy hback hcovers
      rw [← himage] at hcovers' himage'
      rw [down_of_covers hs hcovers', himage', Char.ofNat_toNat]
    · rw [he] at hself
      obtain rfl : e = d := List.singleton_inj.1 hself
      exact p.down_settled.apply_of_mem_apply hd

end Pair

/-! ### Upper case and lower case -/

variable {c d u : Char}

/-- **Upper case stays as it is in upper case.** -/
theorem upper_of_mem_upper (h : d ∈ upper c) : upper d = [d] := maps.up_settled.apply_of_mem_apply h

/-- **Lower case stays as it is in lower case.** -/
theorem lower_of_mem_lower (h : d ∈ lower c) : lower d = [d] := maps.down_settled.apply_of_mem_apply h

theorem upper_ne_nil (c : Char) : upper c ≠ [] := maps.up_settled.apply_ne_nil c

theorem lower_ne_nil (c : Char) : lower c ≠ [] := maps.down_settled.apply_ne_nil c

/-- No other character has an underscore in its upper case. -/
theorem bar_of_mem_upper (h : '_' ∈ upper c) : c = '_' :=
  (maps.up_settled.eq_of_mem_apply h maps.up_settled.bar).symm

theorem bar_of_mem_lower (h : '_' ∈ lower c) : c = '_' :=
  (maps.down_settled.eq_of_mem_apply h maps.down_settled.bar).symm

/-- The capital sharp s is the upper case of itself only, since `ß` becomes
`SS`. -/
theorem sharp_of_mem_upper (h : 'ẞ' ∈ upper c) : c = 'ẞ' :=
  (maps.up_settled.eq_of_mem_apply h maps.matched.sharp.1).symm

theorem sharp_upper : upper 'ẞ' = ['ẞ'] := maps.matched.sharp.2.1

theorem sharp_lower : lower 'ẞ' = ['ß'] := maps.matched.sharp.2.2

/-- **What a capital is lowered to comes back from its own capital**, except
for the capital sharp s. -/
theorem exists_upper_of_mem_lower (hu : upper u = [u]) (hsharp : u ≠ 'ẞ') (hd : d ∈ lower u) :
    ∃ e, upper d = [e] ∧ lower e = [d] :=
  Pair.exists_up_of_mem_down (p := maps) hu hsharp hd

end Case
end ResourceTemplate
