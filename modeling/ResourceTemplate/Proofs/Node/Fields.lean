/-
# The fields of a branch and of its document

The document of a branch is made from its children one after the other, each
under the spelling of its name; this is one walk, whatever the document of a
single child is (`spellAll`). So under a spelling stands the document of the
last child that is spelled so, and the collection of resources has one item
for each of its entries.

Key definitions: `Node.spellAll`, `Node.lastSpelled?`.
Key theorems: `Node.get?_ofList_spellAll`, `Node.resourceList_eq_ok`.
-/
import ResourceTemplate.Node.Document
import ResourceTemplate.Proofs.Entries
import ResourceTemplate.Proofs.Outcome

namespace ResourceTemplate
namespace Node

open Outcome

/-- The fields for children whose documents `f` makes. -/
def spellAll (style : KeyStyle) (f : String → Node → Except Error Document) :
    List (String × Node) → Except Error (List (String × Document))
  | [] => return []
  | (name, n) :: rest => do
    let d ← f name n
    let ds ← spellAll style f rest
    return (style.spell name, d) :: ds

theorem fields_eq_spellAll (s : Scope) (children : List (String × Node)) :
    fields s children = spellAll s.style (fun _ n => n.inner s) children := by
  induction children with
  | nil => rfl
  | cons c rest ih => rw [fields, spellAll, ih]

theorem rootFields_eq_spellAll (s : Scope) (children : List (String × Node)) :
    rootFields s children = spellAll s.style (fun name n => n.rootChild s name) children := by
  induction children with
  | nil => rfl
  | cons c rest ih => rw [rootFields, spellAll, ih]

variable {style : KeyStyle} {f : String → Node → Except Error Document}

theorem spellAll_cons_eq_ok {c : String × Node} {rest : List (String × Node)}
    {fs : List (String × Document)} : spellAll style f (c :: rest) = .ok fs ↔
      ∃ d ds, f c.1 c.2 = .ok d ∧ spellAll style f rest = .ok ds ∧ fs = (style.spell c.1, d) :: ds := by
  rw [spellAll, bind_eq_ok]
  constructor
  · rintro ⟨d, hd, h⟩
    obtain ⟨ds, hds, h⟩ := bind_eq_ok.1 h
    exact ⟨d, ds, hd, hds, (return_eq_ok.1 h).symm⟩
  · rintro ⟨d, ds, hd, hds, rfl⟩
    exact ⟨d, hd, bind_eq_ok.2 ⟨ds, hds, rfl⟩⟩

/-- The names of the fields are the spellings of the children, in order. -/
theorem names_spellAll : ∀ {children : List (String × Node)} {fs : List (String × Document)},
    spellAll style f children = .ok fs → Entries.names fs = children.map fun c => style.spell c.1
  | [], fs, h => by
    rw [spellAll, return_eq_ok] at h
    rw [← h]
    rfl
  | c :: rest, fs, h => by
    obtain ⟨d, ds, -, hds, rfl⟩ := spellAll_cons_eq_ok.1 h
    rw [Entries.names_cons, List.map_cons, names_spellAll hds]

/-- Each child gives a field. -/
theorem mem_spellAll {c : String × Node} : ∀ {children : List (String × Node)}
    {fs : List (String × Document)}, spellAll style f children = .ok fs → c ∈ children →
    ∃ d, f c.1 c.2 = .ok d ∧ (style.spell c.1, d) ∈ fs
  | [], _, _, hc => absurd hc List.not_mem_nil
  | c' :: rest, fs, h, hc => by
    obtain ⟨d, ds, hd, hds, rfl⟩ := spellAll_cons_eq_ok.1 h
    rcases List.mem_cons.1 hc with rfl | hc
    · exact ⟨d, hd, List.mem_cons_self⟩
    · obtain ⟨d', hd', hmem⟩ := mem_spellAll hds hc
      exact ⟨d', hd', List.mem_cons_of_mem _ hmem⟩

/-- The last child that is spelled in a given way. -/
def lastSpelled? (style : KeyStyle) (children : List (String × Node)) (key : String) :
    Option (String × Node) :=
  (children.filter fun c => style.spell c.1 == key).getLast?

theorem lastSpelled?_cons (c : String × Node) (rest : List (String × Node)) (key : String) :
    lastSpelled? style (c :: rest) key =
      (lastSpelled? style rest key).or (if style.spell c.1 = key then some c else none) := by
  rw [lastSpelled?, lastSpelled?]
  by_cases h : style.spell c.1 = key
  · rw [List.filter_cons_of_pos (by simp [h]), List.getLast?_cons, if_pos h]
    cases (rest.filter fun c => style.spell c.1 == key).getLast? <;> rfl
  · rw [List.filter_cons_of_neg (by simp [h]), if_neg h, Option.or_none]

/-- Under a spelling stands the document of the last child spelled so. -/
theorem last?_spellAll (key : String) : ∀ {children : List (String × Node)}
    {fs : List (String × Document)}, spellAll style f children = .ok fs →
    match lastSpelled? style children key with
    | none => Entries.last? fs key = none
    | some c => ∃ d, f c.1 c.2 = .ok d ∧ Entries.last? fs key = some d
  | [], fs, h => by
    rw [spellAll, return_eq_ok] at h
    rw [← h]
    rfl
  | c :: rest, fs, h => by
    obtain ⟨d, ds, hd, hds, rfl⟩ := spellAll_cons_eq_ok.1 h
    have ih := last?_spellAll key hds
    rw [lastSpelled?_cons, Entries.last?]
    cases hc : lastSpelled? style rest key with
    | some c' =>
      rw [hc] at ih
      obtain ⟨d', hd', hlast⟩ := ih
      exact ⟨d', hd', by rw [hlast, Option.some_or]⟩
    | none =>
      rw [hc] at ih
      by_cases hk : style.spell c.1 = key
      · rw [if_pos hk, if_pos hk]
        exact ⟨d, hd, by rw [ih, Option.none_or]⟩
      · rw [if_neg hk, if_neg hk, ih]
        rfl

/-- Where a child has a spelling, there is a last one that has it. -/
theorem exists_lastSpelled (style : KeyStyle) {children : List (String × Node)} {c : String × Node}
    (hc : c ∈ children) :
    ∃ c' ∈ children, style.spell c'.1 = style.spell c.1 ∧
      lastSpelled? style children (style.spell c.1) = some c' := by
  cases hs : lastSpelled? style children (style.spell c.1) with
  | none =>
    have hempty : c ∉ children.filter fun c' => style.spell c'.1 == style.spell c.1 := by
      rw [List.getLast?_eq_none_iff.1 hs]
      exact List.not_mem_nil
    exact absurd (List.mem_filter.2 ⟨hc, by simp⟩) hempty
  | some c' =>
    obtain ⟨hmem, hspell⟩ := List.mem_filter.1 (List.mem_of_getLast? hs)
    exact ⟨c', hmem, by simpa using hspell, rfl⟩

/-- A child whose spelling no other child has gives the value of its
spelling. -/
theorem get?_ofList_spellAll {children : List (String × Node)} {fs : List (String × Document)}
    (h : spellAll style f children = .ok fs) {c : String × Node} (hc : c ∈ children)
    (honly : ∀ c' ∈ children, style.spell c'.1 = style.spell c.1 → c' = c) :
    ∃ d, f c.1 c.2 = .ok d ∧ (Entries.ofList fs).get? (style.spell c.1) = some d := by
  have hlast := last?_spellAll (style.spell c.1) h
  obtain ⟨c', hmem, hspell, hs⟩ := exists_lastSpelled style hc
  obtain rfl := honly c' hmem hspell
  rw [hs] at hlast
  obtain ⟨d, hd, hlast⟩ := hlast
  exact ⟨d, hd, by rw [Entries.get?_ofList, hlast]⟩

/-! ### Documents -/

theorem document_branch_eq_ok {s : Scope} {children : List (String × Node)} {d : Document} :
    (branch children).document s = .ok d ↔ ∃ fs,
      spellAll s.style (fun name n => n.rootChild s name) children = .ok fs ∧
        d = .object (Entries.ofList fs) := by
  rw [document, bind_eq_ok, rootFields_eq_spellAll]
  exact exists_congr fun fs => and_congr_right fun _ => return_eq_ok.trans eq_comm

theorem inner_branch_eq_ok {s : Scope} {children : List (String × Node)} {d : Document} :
    (branch children).inner s = .ok d ↔ ∃ fs, spellAll s.style (fun _ n => n.inner s) children = .ok fs ∧
      d = .object (Entries.ofList fs) := by
  rw [inner, bind_eq_ok, fields_eq_spellAll]
  exact exists_congr fun fs => and_congr_right fun _ => return_eq_ok.trans eq_comm

theorem resourceDocument_branch_eq_ok {s : Scope} {name : String} {children : List (String × Node)}
    {d : Document} : (branch children).resourceDocument s name = .ok d ↔ ∃ fs,
      spellAll s.style (fun _ n => n.inner s) (children.filter fun c => c.1 != nameField) = .ok fs ∧
        d = .object (Entries.ofList ((s.style.spell nameField, .str (s.style.spell name)) :: fs)) := by
  rw [resourceDocument, bind_eq_ok, fields_eq_spellAll]
  exact exists_congr fun fs => and_congr_right fun _ => return_eq_ok.trans eq_comm

/-- Only a branch has a document as a resource. -/
theorem exists_of_resourceDocument_eq_ok {s : Scope} {name : String} {n : Node} {d : Document}
    (h : n.resourceDocument s name = .ok d) : ∃ children, n = branch children := by
  cases n with
  | leaf v => rw [resourceDocument] at h; exact absurd h (by simp)
  | branch children => exact ⟨children, rfl⟩

/-- The collection has one item for each entry, in order. -/
theorem resourceList_eq_ok {s : Scope} : ∀ {entries : List (String × Node)} {items : List Document},
    resourceList s entries = .ok items → items.length = entries.length ∧
      ∀ i (hi : i < entries.length), ∃ d, items[i]? = some d ∧
        (entries[i]).2.resourceDocument s (entries[i]).1 = .ok d
  | [], items, h => by
    rw [resourceList, return_eq_ok] at h
    rw [← h]
    exact ⟨rfl, fun i hi => absurd hi (Nat.not_lt_zero i)⟩
  | (name, n) :: rest, items, h => by
    rw [resourceList] at h
    obtain ⟨d, hd, h⟩ := bind_eq_ok.1 h
    obtain ⟨ds, hds, h⟩ := bind_eq_ok.1 h
    rw [return_eq_ok] at h
    obtain ⟨hlength, hitems⟩ := resourceList_eq_ok hds
    rw [← h]
    refine ⟨by rw [List.length_cons, List.length_cons, hlength], fun i hi => ?_⟩
    cases i with
    | zero => exact ⟨d, rfl, hd⟩
    | succ i => exact hitems i (Nat.lt_of_succ_lt_succ hi)

/-- The resource collection stands in the document as the list of its
entries, if no other child of the root is spelled like it. -/
theorem get?_document_resources {s : Scope} {children entries : List (String × Node)} {d : Document}
    (hmem : (resourcesField, branch entries) ∈ children)
    (honly : ∀ c ∈ children, s.style.spell c.1 = s.style.spell resourcesField →
      c = (resourcesField, branch entries))
    (h : (branch children).document s = .ok d) : ∃ fields items, d = .object fields ∧
      Entries.get? fields (s.style.spell resourcesField) = some (.list items) ∧
      resourceList s entries = .ok items := by
  obtain ⟨fs, hfs, rfl⟩ := document_branch_eq_ok.1 h
  obtain ⟨d, hd, hget⟩ := get?_ofList_spellAll hfs hmem honly
  rw [rootChild, if_pos rfl] at hd
  obtain ⟨items, hitems, hlist⟩ := bind_eq_ok.1 hd
  rw [return_eq_ok] at hlist
  exact ⟨_, items, rfl, by rw [hget, hlist], hitems⟩

end Node
end ResourceTemplate
