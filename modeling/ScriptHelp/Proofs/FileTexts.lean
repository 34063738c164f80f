import Mathlib.Data.List.Forall2
import ScriptHelp.Files.Tree

namespace ScriptHelp

namespace Text.Utf8

variable {b : UInt8} {bs after row : Bytes} {code full taken n position : Nat}
  {bounds : List (Nat × Nat)} {c : Char} {cs : List Char}

def Fits (p : Nat × Nat) (b : UInt8) : Prop := p.1 ≤ b.toNat ∧ b.toNat ≤ p.2

def codeOf (code : Nat) (xs : Bytes) : Nat := xs.foldl (fun n x => n * 64 + x.toNat % 64) code

theorem tails_eq_ok_iff : tails code taken bounds bs = .ok (full, after) ↔
    ∃ xs, bs = xs ++ after ∧ List.Forall₂ Fits bounds xs ∧ full = codeOf code xs := by
  induction bounds generalizing code taken bs with
  | nil =>
    constructor
    · intro h
      rw [tails, Except.ok.injEq, Prod.mk.injEq] at h
      exact ⟨[], h.2, .nil, h.1.symm⟩
    · rintro ⟨xs, rfl, hxs, rfl⟩
      rw [List.forall₂_nil_left_iff.mp hxs]
      rfl
  | cons p bounds ih =>
    cases bs with
    | nil =>
      refine iff_of_false (by simp [tails]) ?_
      rintro ⟨xs, hxs, hfits, -⟩
      rw [(List.append_eq_nil_iff.mp hxs.symm).1] at hfits
      cases hfits
    | cons b bs =>
      rw [tails]
      by_cases hb : p.1 ≤ b.toNat ∧ b.toNat ≤ p.2
      · rw [if_pos hb, ih]
        constructor
        · rintro ⟨xs, rfl, hxs, rfl⟩
          exact ⟨b :: xs, rfl, .cons hb hxs, rfl⟩
        · rintro ⟨xs, hbs, hxs, rfl⟩
          cases hxs with
          | cons hx hxs =>
            obtain ⟨rfl, rfl⟩ := List.cons.inj hbs
            exact ⟨_, rfl, hxs, rfl⟩
      · rw [if_neg hb]
        refine iff_of_false (by simp) ?_
        rintro ⟨xs, hbs, hxs, -⟩
        cases hxs with
        | cons hx hxs =>
          obtain ⟨rfl, -⟩ := List.cons.inj hbs
          exact hb hx

/-- The bounds of the second byte of three or four, which exclude overlong forms, surrogates and
numbers above U+10FFFF. -/
def secondOf (b : Nat) : Nat × Nat :=
  (if b = 0xE0 then 0xA0 else if b = 0xF0 then 0x90 else 0x80,
    if b = 0xED then 0x9F else if b = 0xF4 then 0x8F else 0xBF)

/-- What must follow a first byte depends on its range only. -/
theorem lead_eq (b : UInt8) : lead b.toNat =
    if b.toNat < 0x80 then some (b.toNat, [])
    else if b.toNat < 0xC2 then none
    else if b.toNat < 0xE0 then some (b.toNat - 0xC0, [(0x80, 0xBF)])
    else if b.toNat < 0xF0 then some (b.toNat - 0xE0, [secondOf b.toNat, (0x80, 0xBF)])
    else if b.toNat < 0xF5 then
      some (b.toNat - 0xF0, [secondOf b.toNat, (0x80, 0xBF), (0x80, 0xBF)])
    else none := by
  have hall : ∀ n < 0x100, lead n =
      if n < 0x80 then some (n, [])
      else if n < 0xC2 then none
      else if n < 0xE0 then some (n - 0xC0, [(0x80, 0xBF)])
      else if n < 0xF0 then some (n - 0xE0, [secondOf n, (0x80, 0xBF)])
      else if n < 0xF5 then some (n - 0xF0, [secondOf n, (0x80, 0xBF), (0x80, 0xBF)])
      else none := by decide +kernel
  exact hall b.toNat b.toNat_lt

def codes (n : Nat) : List Nat :=
  if n < 0x80 then [n]
  else if n < 0x800 then [n / 64 + 0xC0, n % 64 + 0x80]
  else if n < 0x10000 then [n / 4096 + 0xE0, n / 64 % 64 + 0x80, n % 64 + 0x80]
  else [n / 262144 + 0xF0, n / 4096 % 64 + 0x80, n / 64 % 64 + 0x80, n % 64 + 0x80]

theorem map_toNat_encodeChar (c : Char) :
    (String.utf8EncodeChar c).map UInt8.toNat = codes c.toNat := by
  have hlt : c.val.toNat < 0x110000 := by
    have := c.valid
    simp only [UInt32.isValidChar, Nat.isValidChar] at this
    omega
  have htoNat : c.toNat = c.val.toNat := rfl
  rw [String.utf8EncodeChar, codes, htoNat]
  split_ifs <;> simp <;> omega

theorem fits_secondOf_iff {m : Nat} {x : UInt8} : Fits (secondOf m) x ↔
    0x80 ≤ x.toNat ∧ x.toNat ≤ 0xBF ∧ (m = 0xE0 → 0xA0 ≤ x.toNat) ∧ (m = 0xF0 → 0x90 ≤ x.toNat) ∧
      (m = 0xED → x.toNat ≤ 0x9F) ∧ (m = 0xF4 → x.toNat ≤ 0x8F) := by
  simp only [Fits, secondOf]
  split_ifs <;> omega

/-- The bytes encode the code point `n`. -/
def Spells (row : Bytes) (n : Nat) : Prop :=
  ∃ b xs code bounds, row = b :: xs ∧ lead b.toNat = some (code, bounds) ∧
    List.Forall₂ Fits bounds xs ∧ n = codeOf code xs

theorem codes_of_spells (h : Spells row n) : n.isValidChar ∧ row.map UInt8.toNat = codes n := by
  obtain ⟨b, xs, code, bounds, rfl, hlead, hxs, hn⟩ := h
  rw [lead_eq] at hlead
  -- a case for each number of bytes; the bounds make the shares the digits of the code point
  split_ifs at hlead with h1 h2 h3 h4 h5
  · obtain ⟨rfl, rfl⟩ := Prod.mk.inj (Option.some.inj hlead)
    cases hxs
    replace hn : n = b.toNat := hn
    rw [codes, if_pos (by omega), hn]
    exact ⟨.inl (by omega), rfl⟩
  · obtain ⟨rfl, rfl⟩ := Prod.mk.inj (Option.some.inj hlead)
    obtain _ | ⟨⟨hx, hx'⟩, _ | _⟩ := hxs
    rename_i x
    replace hn : n = (b.toNat - 0xC0) * 64 + x.toNat % 64 := hn
    rw [codes, if_neg (by omega), if_pos (by omega)]
    refine ⟨.inl (by omega), ?_⟩
    simp only [List.map_cons, List.map_nil, List.cons.injEq, and_true]
    omega
  · obtain ⟨rfl, rfl⟩ := Prod.mk.inj (Option.some.inj hlead)
    obtain _ | ⟨hx, _ | ⟨⟨hy, hy'⟩, _ | _⟩⟩ := hxs
    rename_i x y
    replace hn : n = ((b.toNat - 0xE0) * 64 + x.toNat % 64) * 64 + y.toNat % 64 := hn
    obtain ⟨hx, hx', hlow, -, hhigh, -⟩ := fits_secondOf_iff.mp hx
    rw [codes, if_neg (by omega), if_neg (by omega), if_pos (by omega)]
    refine ⟨?_, ?_⟩
    · rw [Nat.isValidChar]
      omega
    · simp only [List.map_cons, List.map_nil, List.cons.injEq, and_true]
      omega
  · obtain ⟨rfl, rfl⟩ := Prod.mk.inj (Option.some.inj hlead)
    obtain _ | ⟨hx, _ | ⟨⟨hy, hy'⟩, _ | ⟨⟨hz, hz'⟩, _ | _⟩⟩⟩ := hxs
    rename_i x y z
    replace hn : n =
        (((b.toNat - 0xF0) * 64 + x.toNat % 64) * 64 + y.toNat % 64) * 64 + z.toNat % 64 := hn
    obtain ⟨hx, hx', -, hlow, -, hhigh⟩ := fits_secondOf_iff.mp hx
    rw [codes, if_neg (by omega), if_neg (by omega), if_neg (by omega)]
    refine ⟨.inr (by omega), ?_⟩
    simp only [List.map_cons, List.map_nil, List.cons.injEq, and_true]
    omega

theorem spells_of_codes (hn : n.isValidChar) (h : row.map UInt8.toNat = codes n) :
    Spells row n := by
  rw [Nat.isValidChar] at hn
  rw [codes] at h
  split_ifs at h with h1 h2 h3
  · obtain ⟨b, _, rfl, hb, hnil⟩ := List.map_eq_cons_iff.mp h
    rw [List.map_eq_nil_iff] at hnil
    subst hnil
    refine ⟨b, [], n, [], rfl, ?_, .nil, rfl⟩
    rw [lead_eq, if_pos (by omega), hb]
  · obtain ⟨b, _, rfl, hb, h⟩ := List.map_eq_cons_iff.mp h
    obtain ⟨x, _, rfl, hx, hnil⟩ := List.map_eq_cons_iff.mp h
    rw [List.map_eq_nil_iff] at hnil
    subst hnil
    refine ⟨b, [x], b.toNat - 0xC0, [(0x80, 0xBF)], rfl, ?_, .cons ⟨by omega, by omega⟩ .nil, ?_⟩
    · rw [lead_eq, if_neg (by omega), if_neg (by omega), if_pos (by omega)]
    · simp only [codeOf, List.foldl_cons, List.foldl_nil]
      omega
  · obtain ⟨b, _, rfl, hb, h⟩ := List.map_eq_cons_iff.mp h
    obtain ⟨x, _, rfl, hx, h⟩ := List.map_eq_cons_iff.mp h
    obtain ⟨y, _, rfl, hy, hnil⟩ := List.map_eq_cons_iff.mp h
    rw [List.map_eq_nil_iff] at hnil
    subst hnil
    refine ⟨b, [x, y], b.toNat - 0xE0, [secondOf b.toNat, (0x80, 0xBF)], rfl, ?_, ?_, ?_⟩
    · rw [lead_eq, if_neg (by omega), if_neg (by omega), if_neg (by omega), if_pos (by omega)]
    · exact .cons (fits_secondOf_iff.mpr (by omega)) (.cons ⟨by omega, by omega⟩ .nil)
    · simp only [codeOf, List.foldl_cons, List.foldl_nil]
      omega
  · obtain ⟨b, _, rfl, hb, h⟩ := List.map_eq_cons_iff.mp h
    obtain ⟨x, _, rfl, hx, h⟩ := List.map_eq_cons_iff.mp h
    obtain ⟨y, _, rfl, hy, h⟩ := List.map_eq_cons_iff.mp h
    obtain ⟨z, _, rfl, hz, hnil⟩ := List.map_eq_cons_iff.mp h
    rw [List.map_eq_nil_iff] at hnil
    subst hnil
    refine ⟨b, [x, y, z], b.toNat - 0xF0, [secondOf b.toNat, (0x80, 0xBF), (0x80, 0xBF)], rfl,
      ?_, ?_, ?_⟩
    · rw [lead_eq, if_neg (by omega), if_neg (by omega), if_neg (by omega), if_neg (by omega),
        if_pos (by omega)]
    · exact .cons (fits_secondOf_iff.mpr (by omega))
        (.cons ⟨by omega, by omega⟩ (.cons ⟨by omega, by omega⟩ .nil))
    · simp only [codeOf, List.foldl_cons, List.foldl_nil]
      omega

/-- Exactly the encodings of characters spell code points. -/
theorem spells_iff : Spells row n ↔ ∃ c : Char, c.toNat = n ∧ row = String.utf8EncodeChar c := by
  have hinj : Function.Injective UInt8.toNat := fun _ _ => UInt8.toNat_inj.mp
  constructor
  · intro h
    obtain ⟨hn, hrow⟩ := codes_of_spells h
    have hc : (Char.ofNat n).toNat = n := by
      rw [Char.ofNat, dif_pos hn]
      rfl
    refine ⟨Char.ofNat n, hc, List.map_injective_iff.mpr hinj ?_⟩
    rw [hrow, map_toNat_encodeChar, hc]
  · rintro ⟨c, rfl, rfl⟩
    exact spells_of_codes c.valid (map_toNat_encodeChar c)

theorem decodeFrom_cons (hlead : lead b.toNat = some (code, bounds)) (position : Nat) (bs : Bytes) :
    decodeFrom position (b :: bs) =
      match tails code 1 bounds bs with
      | .error (count, reason) => .error ⟨position, b, count, reason⟩
      | .ok (full, after) => (decodeFrom (position + (bs.length + 1 - after.length)) after).map
          (Char.ofNat full :: ·) := by
  rw [decodeFrom]
  simp only [hlead]
  split
  · rename_i htails
    rw [htails]
  · rename_i full after htails
    rw [htails]
    simp only
    cases decodeFrom (position + (bs.length + 1 - after.length)) after <;> rfl

theorem decodeFrom_append (h : Spells row n) (position : Nat) (after : Bytes) :
    decodeFrom position (row ++ after) =
      (decodeFrom (position + row.length) after).map (Char.ofNat n :: ·) := by
  obtain ⟨b, xs, code, bounds, rfl, hlead, hxs, rfl⟩ := h
  have htails : tails code 1 bounds (xs ++ after) = .ok (codeOf code xs, after) :=
    tails_eq_ok_iff.mpr ⟨xs, rfl, hxs, rfl⟩
  have hlength : (xs ++ after).length + 1 - after.length = (b :: xs).length := by
    rw [List.length_append, List.length_cons]
    omega
  rw [List.cons_append, decodeFrom_cons hlead, htails]
  simp only [hlength]

/-- Decoded bytes are empty or start with the bytes of a character. -/
theorem decodeFrom_cases (h : decodeFrom position bs = .ok cs) : bs = [] ∧ cs = [] ∨
    ∃ row n after position' ds, bs = row ++ after ∧ Spells row n ∧ cs = Char.ofNat n :: ds ∧
      decodeFrom position' after = .ok ds := by
  cases bs with
  | nil =>
    rw [decodeFrom, Except.ok.injEq] at h
    exact .inl ⟨rfl, h.symm⟩
  | cons b bs =>
    right
    cases hlead : lead b.toNat with
    | none => simp [decodeFrom, hlead] at h
    | some p =>
      obtain ⟨code, bounds⟩ := p
      rw [decodeFrom_cons hlead] at h
      cases htails : tails code 1 bounds bs with
      | error f => simp [htails] at h
      | ok p =>
        obtain ⟨full, after⟩ := p
        obtain ⟨xs, rfl, hxs, rfl⟩ := tails_eq_ok_iff.mp htails
        simp only [htails] at h
        cases hafter : decodeFrom (position + ((xs ++ after).length + 1 - after.length)) after with
        | error f =>
          rw [hafter, Except.map] at h
          cases h
        | ok ds =>
          rw [hafter, Except.map, Except.ok.injEq] at h
          exact ⟨b :: xs, _, after, _, ds, rfl, ⟨b, xs, code, bounds, rfl, hlead, hxs, rfl⟩,
            h.symm, hafter⟩

theorem decodeFrom_eq_ok_iff (position : Nat) :
    decodeFrom position bs = .ok cs ↔ bs = cs.flatMap String.utf8EncodeChar := by
  induction cs generalizing position bs with
  | nil =>
    constructor
    · intro h
      obtain ⟨hbs, -⟩ | ⟨_, _, _, _, _, _, _, hcs, _⟩ := decodeFrom_cases h
      · exact hbs
      · cases hcs
    · rintro rfl
      rw [List.flatMap_nil, decodeFrom]
  | cons c cs ih =>
    constructor
    · intro h
      obtain ⟨_, hcs⟩ | ⟨row, n, after, position', ds, rfl, hrow, hcs, hafter⟩ := decodeFrom_cases h
      · cases hcs
      · obtain ⟨rfl, rfl⟩ := List.cons.inj hcs
        obtain ⟨c, rfl, rfl⟩ := spells_iff.mp hrow
        rw [List.flatMap_cons, Char.ofNat_toNat, (ih position').mp hafter]
    · rintro rfl
      have hspells : Spells (String.utf8EncodeChar c) c.toNat := spells_iff.mpr ⟨c, rfl, rfl⟩
      rw [List.flatMap_cons, decodeFrom_append hspells, (ih _).mpr rfl, Char.ofNat_toNat]
      rfl

theorem loop_eq_append_drop (bytes : ByteArray) (i : Nat) (done : Bytes) :
    ByteArray.toList.loop bytes i done = done.reverse ++ bytes.data.toList.drop i := by
  fun_induction ByteArray.toList.loop bytes i done with
  | case1 i done hi ih =>
    have hget : bytes.data.toList.drop i = bytes.get! i :: bytes.data.toList.drop (i + 1) := by
      have hlength : i < bytes.data.toList.length := by simpa using hi
      rw [List.drop_eq_getElem_cons hlength]
      simp [ByteArray.get!, hi]
    rw [ih, hget, List.reverse_cons, List.append_assoc, List.singleton_append]
  | case2 i done hi =>
    have hend : bytes.data.toList.drop i = [] :=
      List.drop_eq_nil_of_le (by simpa using Nat.le_of_not_lt hi)
    rw [hend, List.append_nil]

theorem encode_eq (s : String) : encode s = s.toList.flatMap String.utf8EncodeChar := by
  have hbytes : s.toUTF8 = s.toList.utf8Encode := by
    rw [String.toUTF8_eq_toByteArray, ← String.toByteArray_ofList, String.ofList_toList]
  rw [encode, hbytes, ByteArray.toList, loop_eq_append_drop, List.drop_zero, List.utf8Encode,
    List.toList_data_toByteArray]
  rfl

/-- Decoding succeeds exactly on encoded texts and inverts the encoding. -/
theorem decode_eq_ok_iff : decode bs = .ok cs ↔ encode (String.ofList cs) = bs := by
  rw [decode, decodeFrom_eq_ok_iff, encode_eq, String.toList_ofList, eq_comm]

end Text.Utf8

namespace FileTree

def textOf (bytes : Bytes) : Except Text.Utf8.Fault (List Char) :=
  (Text.Utf8.decode bytes).map Text.unifyLineEnds

variable {t u : FileTree} {p : Path} {bytes : Bytes} {text : List Char}

theorem readText_of_readBytes (h : t.readBytes p = .ok bytes) :
    t.readText p = (textOf bytes).mapError .decoding := by
  simp only [readText, h, textOf]
  cases Text.Utf8.decode bytes <;> rfl

theorem readText_congr (h : u.readBytes p = t.readBytes p) : u.readText p = t.readText p := by
  rw [readText, readText, h]

theorem readBytes_of_readText (h : t.readText p = .ok text) :
    ∃ bytes, t.readBytes p = .ok bytes ∧ textOf bytes = .ok text := by
  cases hbytes : t.readBytes p with
  | error e =>
    rw [readText, hbytes] at h
    exact absurd h (by simp)
  | ok bytes =>
    rw [readText_of_readBytes hbytes] at h
    refine ⟨bytes, rfl, ?_⟩
    cases htext : textOf bytes with
    | error f =>
      rw [htext] at h
      exact absurd h (by simp [Except.mapError])
    | ok x =>
      rw [htext] at h
      exact congrArg Except.ok (Except.ok.inj h)

end FileTree

end ScriptHelp
