import ScriptHelp.Proofs.Addresses

namespace ScriptHelp

namespace Address

def address (signed : Bool) (name text : String) : String :=
  (if signed then "@" else "") ++ name ++ " " ++ text

def Unsigned (name : String) : Prop := name.toList.head? ≠ some '@'

instance (name : String) : Decidable (Unsigned name) := inferInstanceAs (Decidable (_ ≠ _))

variable {signed : Bool} {name other text rest message : String}

theorem toList_address : (address signed name text).toList =
    (if signed then ['@'] else []) ++ name.toList ++ ' ' :: text.toList := by
  cases signed <;> simp [address]

theorem calls_address : Calls (signed, name) (address signed name text) text :=
  ⟨name.toList, List.forall₂_same.mpr fun c _ => by simp [Text.sameLetter], toList_address⟩

theorem head?_of_calls (h : Calls (true, name) message rest) :
    message.toList.head? = some '@' := by
  obtain ⟨w, -, hm⟩ := h
  rw [hm]
  rfl

theorem head?_address (h : Unsigned name) :
    (address false name text).toList.head? ≠ some '@' := by
  rw [toList_address]
  cases hn : name.toList with
  | nil => simp
  | cons c cs =>
    rw [Unsigned, hn] at h
    simpa using h

theorem calls_signed_iff : Calls (signed, other) (address signed name text) rest ↔
    Calls (false, other) (address false name text) rest := by
  simp only [Calls, toList_address]
  cases signed <;> simp

theorem heard_eq_append {names before after : List String}
    (hnames : names = before ++ name :: after) (hheard : name ∈ heard names) :
    ∃ before' after', before' ⊆ before ∧ heard names = before' ++ name :: after' := by
  let p : String → Bool := fun n => ∀ m ∈ names, ¬ Hides m.toList n.toList
  have hp : heard names = names.filter p := rfl
  rw [hp] at hheard ⊢
  refine ⟨before.filter p, after.filter p, List.filter_subset_self _, ?_⟩
  rw [← List.filter_cons_of_pos (List.mem_filter.mp hheard).2, ← List.filter_append, ← hnames]

end Address

namespace Responder

open Address

variable {r : Responder} {before after : List String} {name text rest message : String}
  {signed : Bool}

def replyTo (r : Responder) (text : String) : Except Pattern.Fault (Option Reply) :=
  (r.index.search text).map fun found => some (r.suggestion found)

/-- The first name that fits is taken. -/
theorem catchAll_of_first (hnames : r.names = before ++ name :: after)
    (hheard : name ∈ heard r.names)
    (hsign : signed = false → message.toList.head? ≠ some '@')
    (hbefore : ∀ n ∈ before, ∀ rest', ¬ Calls (signed, n) message rest')
    (hcalls : Calls (signed, name) message rest) : r.catchAll message = r.replyTo rest := by
  obtain ⟨others, hothers, hr⟩ := names_eq r
  obtain ⟨before, after, hsub, heq⟩ := heard_eq_append hnames hheard
  have hways : ways (heard (r.robotName :: others)) =
      before.map (Prod.mk true) ++ (true, name) :: after.map (Prod.mk true) ++
        (before.map (Prod.mk false) ++ (false, name) :: after.map (Prod.mk false)) := by
    rw [← hr, heq, ways, List.map_append, List.map_append, List.map_cons, List.map_cons]
  refine catchAll_of_remainder? ?_
  rw [hr]
  cases signed with
  | true =>
    rw [List.append_assoc, List.cons_append] at hways
    refine remainder?_eq_some r.robotName hothers hways ?_ hcalls
    exact List.forall_mem_map.mpr fun n hn => hbefore n (hsub hn)
  | false =>
    rw [← List.append_assoc] at hways
    refine remainder?_eq_some r.robotName hothers hways ?_ hcalls
    rintro ⟨_ | _, n⟩ hway rest'
    · exact hbefore n (hsub (by simpa using hway)) rest'
    · -- without an at sign no name fits after one
      exact fun h => hsign rfl (head?_of_calls h)

/-- The name and the alias address the robot with or without `@`, and the answer is to the text
after them. Where the name and a space are a prefix of the alias and the text, the name is taken,
and the answer is to what follows. -/
theorem catchAll_address (r : Responder) (other text : String) (signed : Bool)
    (halias : r.robotAlias = some other) (hne : other ≠ "")
    (hname : Unsigned r.robotName) (hunsigned : Unsigned other) :
    (r.robotName ∈ heard r.names →
      r.catchAll (address signed r.robotName text) = r.replyTo text) ∧
    (other ∈ heard r.names →
      (∀ rest, ¬ Calls (false, r.robotName) (address false other text) rest) →
      r.catchAll (address signed other text) = r.replyTo text) ∧
    (r.robotName ∈ heard r.names →
      ∀ rest, Calls (false, r.robotName) (address false other text) rest →
        r.catchAll (address signed other text) = r.replyTo rest) := by
  have hnames : r.names = [r.robotName, other] := by simp [names, halias, hne]
  have hsign : ∀ name, Unsigned name → signed = false →
      (address signed name text).toList.head? ≠ some '@' := by
    rintro name h rfl
    exact head?_address h
  have hfirst : r.names = [] ++ r.robotName :: [other] := hnames
  have hsecond : r.names = [r.robotName] ++ other :: [] := hnames
  refine ⟨fun hheard => ?_, fun hheard hnone => ?_, fun hheard rest hcalls => ?_⟩
  · exact catchAll_of_first hfirst hheard (hsign _ hname) (by simp) calls_address
  · refine catchAll_of_first hsecond hheard (hsign _ hunsigned) ?_ calls_address
    intro n hn rest' h
    obtain rfl := List.mem_singleton.mp hn
    exact hnone rest' (calls_signed_iff.mp h)
  · exact catchAll_of_first hfirst hheard (hsign _ hunsigned) (by simp)
      (calls_signed_iff.mpr hcalls)

/-- The name extends the alias, so one message can be addressed to either. -/
theorem catchAll_address_continued :
    let r := withNames "hal 9000" "hal"
    r.catchAll (address true "hal 9000" "pin") = r.replyTo "pin" ∧
      r.catchAll (address true "hal" "pin") = r.replyTo "pin" ∧
      r.catchAll (address true "hal" "9000 pin") = r.replyTo "pin" := by
  have hheard : heard (withNames "hal 9000" "hal").names = ["hal 9000", "hal"] :=
    heard_eq_self (by decide +kernel)
  have hname : "hal 9000" ∈ heard (withNames "hal 9000" "hal").names := by simp [hheard]
  have hother : "hal" ∈ heard (withNames "hal 9000" "hal").names := by simp [hheard]
  have hnone : ∀ rest, ¬ Calls (false, "hal 9000") (address false "hal" "pin") rest :=
    after?_call_eq_none_iff.mp (by decide +kernel)
  have hcalls : Calls (false, "hal 9000") (address false "hal" "9000 pin") "pin" :=
    after?_call_eq_some_iff.mp (by decide +kernel)
  have htext := fun text => catchAll_address (withNames "hal 9000" "hal") "hal" text true rfl
    (by decide) (by decide) (by decide)
  obtain ⟨hsame, hfree, -⟩ := htext "pin"
  obtain ⟨-, -, htaken⟩ := htext "9000 pin"
  exact ⟨hsame hname, hfree hother hnone, htaken hname "pin" hcalls⟩

/-- The alias extends the name, so the search is for more than the text after the alias. -/
theorem not_catchAll_address_continued :
    let r := withNames "hal" "hal 9000"
    Unsigned r.robotName ∧ Unsigned "hal 9000" ∧ r.robotAlias = some "hal 9000" ∧
      ∀ signed, r.catchAll (address signed "hal 9000" "pin") ≠ r.replyTo "pin" := by
  refine ⟨by decide, by decide, rfl, fun signed => ?_⟩
  cases signed <;> decide +kernel

end Responder

end ScriptHelp
