/-
# Equal values

Values are equal without regard to the order of the names in a mapping, at
whatever depth, so their documents can differ in the order of fields; and no
more than that if they hold no floating-point numbers, which may be equal and
yet be written differently. Whether there is a document at all is the same for
both, since an entry that has none fails wherever it stands.

A mapping is a value whose names are different. This is asked at every depth
too, as a check (`Value.passes`).

Key definitions: `Value.passes`, `Value.isKeyed`, `Value.isFloatFree`.
Key theorems: `Value.document_alike`.
-/
import ResourceTemplate.Proofs.Document.Collected
import ResourceTemplate.Proofs.Document.Rearranged
import ResourceTemplate.Proofs.Expr.Equal

namespace ResourceTemplate

open Outcome

/-! ### Checks at every depth -/

mutual
/-- Whether a value and all values in it pass a check. -/
def Value.passes (p : Value → Bool) : Value → Bool
  | .null => p .null
  | .bool flag => p (.bool flag)
  | .int number => p (.int number)
  | .float number => p (.float number)
  | .str text => p (.str text)
  | .list items => p (.list items) && Value.allPass p items
  | .map entries => p (.map entries) && Value.entriesPass p entries
  | .expr e => p (.expr e)
  | .ref r => p (.ref r)
termination_by structural v => v

/-- Whether all items pass a check. -/
def Value.allPass (p : Value → Bool) : List Value → Bool
  | [] => true
  | v :: vs => v.passes p && Value.allPass p vs
termination_by structural vs => vs

/-- Whether the values of all entries pass a check. -/
def Value.entriesPass (p : Value → Bool) : List (String × Value) → Bool
  | [] => true
  | (_, v) :: rest => v.passes p && Value.entriesPass p rest
termination_by structural entries => entries
end

namespace Value

/-- Whether the names of a mapping are different. -/
def isKeyed : Value → Bool
  | .map entries => decide (Entries.names entries).Nodup
  | _ => true

/-- Whether a value is not a floating-point number, and is no expression that
holds one. -/
def isFloatFree : Value → Bool
  | .float _ => false
  | .expr e => e.passes .floatFree
  | _ => true

/-- A mapping that is made from entries has different names. -/
theorem isKeyed_ofEntries (es : List (String × Value)) : (ofEntries es).isKeyed := by
  rw [ofEntries, isKeyed, decide_eq_true_iff]
  exact Entries.nodup_names_ofList es

/-- What is asked of a value at every depth to have one document up to the
order of fields. -/
def isExact (v : Value) : Bool := v.isKeyed && v.isFloatFree

end Value

/-! ### Documents of equal values -/

variable {s : Scope}

mutual
/-- **Equal values have documents that differ in the order of fields only**, or
both have none. -/
theorem Value.document_alike : ∀ {v w : Value}, v.passes Value.isExact → v.same w →
    Alike Document.Rearranged (v.document s) (w.document s)
  | .null, w, _, h => by
    cases w with
    | null => exact alike_self .same _
    | _ => exact Bool.noConfusion h
  | .bool flag, w, _, h => by
    cases w with
    | bool flag' =>
      rw [beq_iff_eq.1 h]
      exact alike_self .same _
    | _ => exact Bool.noConfusion h
  | .int number, w, _, h => by
    cases w with
    | int number' =>
      rw [beq_iff_eq.1 h]
      exact alike_self .same _
    | _ => exact Bool.noConfusion h
  | .float number, _, hexact, _ => Bool.noConfusion hexact
  | .str text, w, _, h => by
    cases w with
    | str text' =>
      rw [beq_iff_eq.1 h]
      exact alike_self .same _
    | _ => exact Bool.noConfusion h
  | .list items, w, hexact, h => by
    cases w with
    | list items' =>
      rw [Value.passes, Bool.and_eq_true] at hexact
      rw [Value.document, Value.document]
      refine (Value.documents_alike hexact.2 h).bind fun ds ds' _ _ hds => ?_
      exact .ok (.list hds)
    | _ => exact Bool.noConfusion h
  | .map entries, w, hexact, h => by
    cases w with
    | map entries' =>
      obtain ⟨hlength, hunder⟩ := (Bool.and_eq_true _ _).mp h
      rw [Value.passes, Bool.and_eq_true] at hexact
      obtain ⟨hhere, hbelow⟩ := hexact
      have hnodup : (Entries.names entries).Nodup :=
        of_decide_eq_true ((Bool.and_eq_true _ _).mp hhere).1
      have hentries : Entries.Paired (fun _ v w => Alike Document.Rearranged (v.document s) (w.document s))
          entries entries' :=
        Entries.paired_of_get? hnodup (beq_iff_eq.1 hlength) (Value.entries_alike hbelow hunder)
      have hparts : Entries.Paired (fun _ => Alike Document.Rearranged) (Value.parts s entries)
          (Value.parts s entries') :=
        hentries.map id (fun _ v => Value.document s v) (fun _ w => Value.document s w) fun _ _ _ hvw => hvw
      rw [Value.document, Value.document, Value.fields_eq_gather, Value.fields_eq_gather]
      refine hparts.gather.bind fun fields fields' _ _ hfields => ?_
      exact .ok (Document.rearranged_object_iff.2 hfields)
    | _ => exact Bool.noConfusion h
  | .expr e, w, hexact, h => by
    cases w with
    | expr f =>
      have hfree : e.passes .floatFree := hexact
      rw [Expr.eq_of_same hfree h]
      exact alike_self .same _
    | _ => exact Bool.noConfusion h
  | .ref r, w, _, h => by
    cases w with
    | ref r' =>
      rw [beq_iff_eq.1 h]
      exact alike_self .same _
    | _ => exact Bool.noConfusion h
termination_by structural v => v

theorem Value.documents_alike : ∀ {vs ws : List Value}, Value.allPass Value.isExact vs → Value.sameAll vs ws →
    Alike (List.Forall₂ Document.Rearranged) (Value.documents s vs) (Value.documents s ws)
  | [], ws, _, h => by
    cases ws with
    | nil => exact .ok .nil
    | cons w ws => exact Bool.noConfusion h
  | v :: vs, ws, hexact, h => by
    cases ws with
    | nil => exact Bool.noConfusion h
    | cons w ws =>
      obtain ⟨hfirst, hrest⟩ := (Bool.and_eq_true _ _).mp h
      rw [Value.allPass, Bool.and_eq_true] at hexact
      rw [Value.documents, Value.documents]
      refine (Value.document_alike hexact.1 hfirst).bind fun d d' _ _ hd => ?_
      refine (Value.documents_alike hexact.2 hrest).bind fun ds ds' _ _ hds => ?_
      exact .ok (.cons hd hds)
termination_by structural vs => vs

theorem Value.entries_alike : ∀ {entries others : List (String × Value)},
    Value.entriesPass Value.isExact entries → Value.sameUnder others entries →
    ∀ e ∈ entries, ∃ w, Entries.get? others e.1 = some w ∧
      Alike Document.Rearranged (e.2.document s) (w.document s)
  | [], _, _, _ => fun _ he => absurd he List.not_mem_nil
  | (name, v) :: rest, others, hexact, h => by
    obtain ⟨hfirst, hrest⟩ := (Bool.and_eq_true _ _).mp h
    rw [Value.entriesPass, Bool.and_eq_true] at hexact
    rw [List.forall_mem_cons]
    refine ⟨?_, Value.entries_alike hexact.2 hrest⟩
    cases hw : Entries.get? others name with
    | none =>
      rw [hw] at hfirst
      exact Bool.noConfusion hfirst
    | some w =>
      rw [hw] at hfirst
      exact ⟨w, rfl, Value.document_alike hexact.1 hfirst⟩
termination_by structural entries => entries
end

end ResourceTemplate
