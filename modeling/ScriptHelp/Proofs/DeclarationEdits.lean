import Mathlib.Data.List.Nodup
import ScriptHelp.Proofs.HeaderLines
import ScriptHelp.Proofs.RecordMerge
import ScriptHelp.Proofs.Results
import ScriptHelp.Source.Declaration

namespace ScriptHelp

open Text

namespace Json

def Opening (c : Char) : Prop := Text.isWhitespace c = false ∧ c ≠ '#' ∧ c ≠ '/'

instance : DecidablePred Opening := fun c =>
  inferInstanceAs (Decidable (Text.isWhitespace c = false ∧ c ≠ '#' ∧ c ≠ '/'))

/-- The value without a package: without the items of a list that are its name, or the field of an
object under it. -/
def without (p : CodePoints) : Json CodePoints → Json CodePoints
  | .arr js => .arr (js.filter fun j => match j with
    | .str s => s ≠ p
    | _ => true)
  | .obj fs => .obj (fs.filter (·.1 ≠ p))
  | j => j

variable {fuel depth : Nat} {c after : Cursor} {j : Json CodePoints} {a : Char}
  {fs : List (CodePoints × Json CodePoints)} {text : List Char}

theorem opening_of_isDigit (h : isDigit a = true) : Opening a := by
  have hall : ∀ n ∈ List.range' '0'.toNat 10, Opening (Char.ofNat n) := by decide +kernel
  rw [isDigit, Bool.and_eq_true, decide_eq_true_eq, decide_eq_true_eq] at h
  have hmem : a.toNat ∈ List.range' '0'.toNat 10 := by
    rw [List.mem_range'_1]
    have hlow : '0'.toNat ≤ a.toNat := h.1
    have hhigh : a.toNat ≤ '9'.toNat := h.2
    have hnine : '9'.toNat = '0'.toNat + 9 := rfl
    omega
  have ha := hall _ hmem
  rwa [Char.ofNat_toNat] at ha

theorem opening_of_wholePart? {cs ds : List Char} (h : wholePart? cs = some ds) :
    ∃ a rest, cs = a :: rest ∧ Opening a := by
  unfold wholePart? at h
  split at h
  · exact ⟨'0', _, rfl, by decide⟩
  · cases cs with
    | nil => exact absurd h (by simp)
    | cons a rest =>
      refine ⟨a, rest, rfl, ?_⟩
      by_cases ha : isDigit a = true
      · exact opening_of_isDigit ha
      · rw [List.takeWhile_cons_of_neg ha] at h
        exact absurd h (by simp)

theorem opening_of_number {r : Json CodePoints × Cursor} (h : number c = .ok r) :
    ∃ a rest, c.rest = a :: rest ∧ Opening a := by
  unfold number at h
  by_cases hminus : c.rest.head? = some '-'
  · obtain ⟨rest, hrest⟩ := List.head?_eq_some_iff.mp hminus
    exact ⟨'-', rest, hrest, by decide⟩
  · simp only [hminus, decide_false, if_false, List.drop_zero] at h
    cases hwhole : wholePart? c.rest with
    | none =>
      rw [hwhole] at h
      exact absurd h (by simp [Cursor.fault])
    | some ds => exact opening_of_wholePart? hwhole

theorem opening_of_constant? {r : Json CodePoints × Cursor} (h : constant? c = some r) :
    ∃ a rest, c.rest = a :: rest ∧ Opening a := by
  have hall : ∀ p ∈ constants, Opening (p.1.toList.headD '#') := by decide +kernel
  obtain ⟨p, hp, -⟩ := Option.map_eq_some_iff.mp h
  have hopening := hall p (List.mem_of_find?_eq_some hp)
  have hstarts := List.find?_some hp
  rw [List.isPrefixOf_iff_prefix] at hstarts
  obtain ⟨more, hmore⟩ := hstarts
  cases hchars : p.1.toList with
  | nil =>
    rw [hchars] at hopening
    exact absurd hopening (by decide)
  | cons a rest =>
    rw [hchars] at hopening hmore
    exact ⟨a, rest ++ more, hmore.symm, hopening⟩

theorem opening_of_value {r : Json CodePoints × Cursor} (h : value fuel depth c = .ok r) :
    ∃ a rest, c.rest = a :: rest ∧ Opening a := by
  cases fuel with
  | zero => exact absurd h (by simp [value, Cursor.fault])
  | succ fuel =>
    rw [value] at h
    split at h
    · exact ⟨'"', _, by assumption, by decide⟩
    · exact ⟨'[', _, by assumption, by decide⟩
    · exact ⟨'\x7b', _, by assumption, by decide⟩
    · split at h
      · exact opening_of_constant? (by assumption)
      · exact opening_of_number h

theorem skipSpace_rest (c : Cursor) : c.skipSpace.rest = c.rest.dropWhile Cursor.isSpace := by
  change c.rest.drop (c.rest.takeWhile Cursor.isSpace).length = _
  conv_lhs => arg 2; rw [← List.takeWhile_append_dropWhile (p := Cursor.isSpace) (l := c.rest)]
  exact List.drop_left

theorem value_of_read (h : read depth text = .ok j) : ∃ (c after : Cursor),
    c.rest = text.dropWhile Cursor.isSpace ∧
      value (2 * text.length + 2) depth c = .ok (j, after) := by
  unfold read at h
  split_ifs at h
  refine ⟨Cursor.skipSpace ⟨0, text⟩, ?_⟩
  cases hvalue : value (2 * text.length + 2) depth (Cursor.skipSpace ⟨0, text⟩) with
  | error f =>
    simp only [hvalue, bind, Except.bind] at h
    exact absurd h (by simp)
  | ok r =>
    obtain ⟨j', after⟩ := r
    simp only [hvalue, bind, Except.bind] at h
    split_ifs at h
    · obtain rfl : j' = j := Except.ok.inj h
      exact ⟨after, skipSpace_rest _, rfl⟩
    · exact absurd h (by simp [Cursor.fault])

theorem opening_of_read (h : read depth text = .ok j) :
    ∃ a rest, text.dropWhile Cursor.isSpace = a :: rest ∧ Opening a := by
  obtain ⟨c, after, hc, hvalue⟩ := value_of_read h
  rw [← hc]
  exact opening_of_value hvalue

theorem not_whitespace_of_read (h : read depth text = .ok j) :
    text.all Text.isWhitespace = false := by
  obtain ⟨a, rest, ha, hopening⟩ := opening_of_read h
  have hmem : a ∈ text := (List.dropWhile_sublist _).subset (ha ▸ List.mem_cons_self)
  rw [List.all_eq_false]
  exact ⟨a, hmem, by simp [hopening.1]⟩

/-- JSON read as a script has an empty record. -/
theorem header_of_read (h : read depth text = .ok j) : Header.read (String.ofList text) = {} := by
  obtain ⟨a, rest, ha, hopening⟩ := opening_of_read h
  have hnot : ¬ Header.Marked text := by
    -- markers are no whitespace, so nothing has been dropped before them
    have hfirst : ∀ b more, text = b :: more → Cursor.isSpace b = false → b = a := by
      intro b more hb hspace
      rw [hb, List.dropWhile_cons_of_neg (by simp [hspace])] at ha
      exact (List.cons.inj ha).1
    rintro (⟨more, hmore⟩ | ⟨more, hmore⟩)
    · exact hopening.2.2 (hfirst '/' _ hmore.symm rfl).symm
    · exact hopening.2.1 (hfirst '#' _ hmore.symm rfl).symm
  rw [Header.read_eq_ofLines, String.toList_ofList, Header.block_eq_nil hnot]
  exact Header.ofLines_nil

theorem names_setField (k : CodePoints) (v : Json CodePoints)
    (fs : List (CodePoints × Json CodePoints)) :
    (setField k v fs).map (·.1) =
      if k ∈ fs.map (·.1) then fs.map (·.1) else fs.map (·.1) ++ [k] := by
  induction fs with
  | nil => rfl
  | cons f fs ih =>
    rw [setField]
    by_cases hf : f.1 = k
    · simp [hf]
    · rw [if_neg hf, List.map_cons, ih, List.map_cons]
      by_cases hk : k ∈ fs.map (·.1)
      · rw [if_pos hk, if_pos (List.mem_cons_of_mem _ hk)]
      · rw [if_neg hk, if_neg fun hmem => (List.mem_cons.mp hmem).elim (Ne.symm hf) hk]
        rfl

theorem nodup_setField {k : CodePoints} {v : Json CodePoints} (h : (fs.map (·.1)).Nodup) :
    ((setField k v fs).map (·.1)).Nodup := by
  rw [names_setField]
  split_ifs with hk
  · exact h
  · rw [← List.concat_eq_append]
    exact List.Nodup.concat hk h

theorem nodup_ofFields (gs : List (CodePoints × Json CodePoints))
    {acc : List (CodePoints × Json CodePoints)}
    (h : (acc.map (·.1)).Nodup) :
    ((gs.foldl (fun acc f => setField f.1 f.2 acc) acc).map (·.1)).Nodup := by
  induction gs generalizing acc with
  | nil => exact h
  | cons g gs ih => exact ih (nodup_setField h)

theorem number_ne_obj : number c ≠ .ok (.obj fs, after) := by
  intro h
  unfold number at h
  dsimp only at h
  cases hwhole : wholePart? (c.rest.drop (if c.rest.head? = some '-' then 1 else 0)) with
  | none =>
    rw [hwhole] at h
    exact absurd h (by simp [Cursor.fault])
  | some whole =>
    rw [hwhole] at h
    dsimp only at h
    split at h
    · split_ifs at h <;> exact absurd h (by simp)
    · exact absurd h (by simp)

theorem constant?_ne_obj : constant? c ≠ some (.obj fs, after) := by
  intro h
  obtain ⟨p, hp, hobj⟩ := Option.map_eq_some_iff.mp h
  have hall : ∀ p ∈ constants, ∀ gs, p.2 ≠ .obj gs := by simp [constants]
  exact hall p (List.mem_of_find?_eq_some hp) fs (congrArg Prod.fst hobj)

/-- The keys of an object that has been read are distinct. -/
theorem nodup_of_value (h : value fuel depth c = .ok (.obj fs, after)) :
    (fs.map (·.1)).Nodup := by
  cases fuel with
  | zero => exact absurd h (by simp [value, Cursor.fault])
  | succ fuel =>
    rw [value] at h
    -- a string, a list, an object, or what has no brackets
    split at h
    · obtain ⟨r, -, hr⟩ := exists_of_bind_eq_ok h
      exact absurd hr (by simp [pure, Except.pure])
    · split_ifs at h
      dsimp only at h
      split at h
      · exact absurd h (by simp)
      · obtain ⟨r, -, hr⟩ := exists_of_bind_eq_ok h
        exact absurd hr (by simp [pure, Except.pure])
    · split_ifs at h
      dsimp only at h
      split at h
      · rw [← Json.obj.inj (congrArg Prod.fst (Except.ok.inj h))]
        exact List.nodup_nil
      · obtain ⟨r, -, hr⟩ := exists_of_bind_eq_ok h
        rw [← Json.obj.inj (congrArg Prod.fst (Except.ok.inj hr))]
        exact nodup_ofFields r.1 List.nodup_nil
    · split at h
      · rename_i hconstant
        exact absurd (Except.ok.inj h ▸ hconstant) constant?_ne_obj
      · exact absurd h number_ne_obj

theorem nodup_of_read (h : read depth text = .ok (.obj fs)) : (fs.map (·.1)).Nodup := by
  obtain ⟨c, after, -, hvalue⟩ := value_of_read h
  exact nodup_of_value hvalue

end Json

namespace Declaration

variable {js : List (Json CodePoints)} {fs : List (CodePoints × Json CodePoints)}
  {j : Json CodePoints} {ns : List CodePoints} {ds : List Declaration} {p : CodePoints}
  {depth : Nat} {text : List Char}

theorem strings?_filter (p : CodePoints) (h : strings? js = some ns) :
    strings? (js.filter fun j => match j with
      | .str s => s ≠ p
      | _ => true) = some (ns.filter (· ≠ p)) := by
  induction js generalizing ns with
  | nil =>
    obtain rfl := Option.some.inj h
    rfl
  | cons j js ih =>
    cases j with
    | str s =>
      obtain ⟨ms, hms, rfl⟩ := Option.map_eq_some_iff.mp h
      by_cases hs : s = p
      · rw [List.filter_cons_of_neg (by simp [hs]), ih hms, List.filter_cons_of_neg (by simp [hs])]
      · rw [List.filter_cons_of_pos (by simp [hs]), strings?, ih hms,
          List.filter_cons_of_pos (by simp [hs])]
        rfl
    | _ => exact absurd h (by simp [strings?])

theorem lists?_filter (p : CodePoints) (h : lists? fs = some ds) :
    lists? (fs.filter (·.1 ≠ p)) = some (ds.filter (·.package ≠ p)) := by
  induction fs generalizing ds with
  | nil =>
    obtain rfl := Option.some.inj h
    rfl
  | cons f fs ih =>
    obtain ⟨n, j⟩ := f
    cases j with
    | arr js =>
      obtain ⟨es, hes, rfl⟩ := Option.map_eq_some_iff.mp h
      by_cases hn : n = p
      · rw [List.filter_cons_of_neg (by simp [hn]), ih hes, List.filter_cons_of_neg (by simp [hn])]
      · rw [List.filter_cons_of_pos (by simp [hn]), lists?, ih hes,
          List.filter_cons_of_pos (by simp [hn])]
        rfl
    | _ => exact absurd h (by simp [lists?])

theorem packages_of_lists? (h : lists? fs = some ds) : ds.map (·.package) = fs.map (·.1) := by
  induction fs generalizing ds with
  | nil =>
    obtain rfl := Option.some.inj h
    rfl
  | cons f fs ih =>
    obtain ⟨n, j⟩ := f
    cases j with
    | arr js =>
      obtain ⟨es, hes, rfl⟩ := Option.map_eq_some_iff.mp h
      rw [List.map_cons, ih hes, List.map_cons]
    | _ => exact absurd h (by simp [lists?])

/-- Removing a package from the text removes its declaration and no other. -/
theorem ofJson?_without (p : CodePoints) (h : ofJson? j = some ds) :
    ofJson? (j.without p) = some (ds.filter (·.package ≠ p)) := by
  cases j with
  | arr js =>
    obtain ⟨ns, hns, rfl⟩ := Option.map_eq_some_iff.mp h
    rw [Json.without, ofJson?, strings?_filter p hns, Option.map_some, List.filter_map,
      Record.firsts_filter]
    rfl
  | obj fs => exact lists?_filter p h
  | _ => exact absurd h (by simp [ofJson?])

/-- Declared packages are distinct. -/
theorem nodup_of_read (hread : Json.read depth text = .ok j) (h : ofJson? j = some ds) :
    (ds.map (·.package)).Nodup := by
  cases j with
  | arr js =>
    obtain ⟨ns, -, rfl⟩ := Option.map_eq_some_iff.mp h
    have hpackages : ((Record.firsts ns).map fun n => (⟨n, none⟩ : Declaration)).map (·.package) =
        Record.firsts ns := by
      rw [List.map_map]
      exact List.map_id _
    rw [hpackages]
    exact Record.nodup_firsts ns
  | obj fs =>
    rw [packages_of_lists? h]
    exact Json.nodup_of_read hread
  | _ => exact absurd h (by simp [ofJson?])

theorem read_of_json (hread : Json.read depth text = .ok j) (h : ofJson? j = some ds) :
    read depth text = .ok ds := by
  simp only [read, Json.not_whitespace_of_read hread, hread, h, Bool.false_eq_true, if_false]

end Declaration

end ScriptHelp
