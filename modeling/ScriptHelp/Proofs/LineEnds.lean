import ScriptHelp.Proofs.FileTexts
import ScriptHelp.Proofs.HeaderMarkers
import ScriptHelp.Source.Scripts

namespace ScriptHelp

namespace Text

inductive LineEnd
  | lf
  | crlf
  | cr
  deriving DecidableEq, Repr

namespace LineEnd

def chars : LineEnd → List Char
  | lf => ['\n']
  | crlf => ['\r', '\n']
  | cr => ['\r']

def writeList (e : LineEnd) (cs : List Char) : List Char :=
  cs.flatMap fun c => if c = '\n' then e.chars else [c]

def write (e : LineEnd) (text : String) : String := String.ofList (e.writeList text.toList)

end LineEnd

variable {e : LineEnd} {c : Char} {cs : List Char}

theorem LineEnd.writeList_cons (e : LineEnd) (c : Char) (cs : List Char) :
    e.writeList (c :: cs) = (if c = '\n' then e.chars else [c]) ++ e.writeList cs := rfl

theorem unifyLineEnds_cons (h : c ≠ '\r') : unifyLineEnds (c :: cs) = c :: unifyLineEnds cs := by
  rw [unifyLineEnds]
  · intro _ hc _
    exact h hc
  · exact h

/-- A carriage return before a line feed is no line end of its own. -/
theorem unifyLineEnds_return (h : cs.head? ≠ some '\n') :
    unifyLineEnds ('\r' :: cs) = '\n' :: unifyLineEnds cs := by
  rw [unifyLineEnds]
  rintro ds rfl
  exact h rfl

theorem LineEnd.head?_writeList_cr (cs : List Char) : (cr.writeList cs).head? ≠ some '\n' := by
  cases cs with
  | nil => simp [writeList]
  | cons c cs =>
    rw [writeList_cons]
    split_ifs with hc
    · simp [chars]
    · simpa using hc

/-- Universal newlines undo every line end, if the text has no carriage return itself. -/
theorem unifyLineEnds_writeList (e : LineEnd) (h : '\r' ∉ cs) :
    unifyLineEnds (e.writeList cs) = cs := by
  induction cs with
  | nil => rfl
  | cons c cs ih =>
    rw [List.mem_cons, not_or] at h
    rw [LineEnd.writeList_cons]
    split_ifs with hc
    · subst hc
      -- a paired return is dropped with its line feed; a lone one must not precede another feed
      cases e with
      | lf => exact (unifyLineEnds_cons (by decide)).trans (congrArg _ (ih h.2))
      | crlf => exact congrArg _ (ih h.2)
      | cr =>
        have hhead := LineEnd.head?_writeList_cr cs
        exact (unifyLineEnds_return hhead).trans (congrArg _ (ih h.2))
    · rw [List.singleton_append, unifyLineEnds_cons (Ne.symm h.1), ih h.2]

end Text

namespace Header

open Text

def Returned (l l' : List Char) : Prop := l' = l ∨ l' = l ++ ['\r']

variable {l l' : List Char} {ls ls' : List (List Char)}

theorem lineList_writeList_crlf (cs : List Char) :
    List.Forall₂ Returned (lineList cs) (lineList (LineEnd.crlf.writeList cs)) := by
  induction cs with
  | nil => exact .cons (.inl rfl) .nil
  | cons c cs ih =>
    rw [LineEnd.writeList_cons]
    split_ifs with hc
    · subst hc
      have hcut : ∀ ds, lineList ('\n' :: ds) = [] :: lineList ds :=
        lineList_append_lineFeed []
      have hcut' : ∀ ds, lineList ('\r' :: '\n' :: ds) = ['\r'] :: lineList ds :=
        lineList_append_lineFeed ['\r']
      rw [hcut]
      exact (hcut' _).symm ▸ .cons (.inr rfl) ih
    · obtain ⟨k, ks, hk, hck⟩ := lineList_cons hc cs
      obtain ⟨k', ks', hk', hck'⟩ := lineList_cons hc (LineEnd.crlf.writeList cs)
      rw [hk, hk'] at ih
      obtain _ | ⟨hfirst, hrest⟩ := ih
      rw [List.singleton_append, hck, hck']
      exact .cons (hfirst.imp (congrArg _) (congrArg _)) hrest

namespace Returned

theorem afterMarker?_append (l : List Char) :
    afterMarker? (l ++ ['\r']) = (afterMarker? l).map (· ++ ['\r']) := by
  have hmarker : ∀ m : List Char, m.getLast? ≠ some '\r' → (m <+: l ++ ['\r'] ↔ m <+: l) := by
    intro m hm
    rw [List.prefix_concat_iff]
    refine or_iff_right fun h => hm ?_
    rw [h, List.getLast?_concat]
  rw [afterMarker?_eq, afterMarker?_eq]
  simp only [hmarker ['/', '/'] (by simp), hmarker ['#'] (by simp)]
  split_ifs with hslashes hhash
  · have hlength : 2 ≤ l.length := hslashes.length_le
    rw [List.drop_append_of_le_length hlength, Option.map_some]
  · have hlength : 1 ≤ l.length := hhash.length_le
    rw [List.drop_append_of_le_length hlength, Option.map_some]
  · rfl

theorem isComment_eq (h : Returned l l') : isComment l' = isComment l := by
  obtain rfl | rfl := h
  · rfl
  · rw [isComment, afterMarker?_append, isComment, Option.isSome_map]

theorem trim_append_return (cs : List Char) : trim (cs ++ ['\r']) = trim cs := by
  have hspace : ∀ c ∈ ['\r'], isWhitespace c = true := List.forall_mem_singleton.mpr (by decide)
  have hnone : ∀ c ∈ ([] : List Char), isWhitespace c = true := by simp
  exact trim_pad hnone hspace

theorem clean_eq (h : Returned l l') : clean l' = clean l := by
  obtain rfl | rfl := h
  · rfl
  · rw [clean, afterMarker?_append, clean]
    cases afterMarker? l with
    | none => exact trim_append_return l
    | some cs => exact trim_append_return cs

theorem two_le_length (hl : isComment l = true) (hhyphen : '-' ∈ l) : 2 ≤ l.length := by
  obtain _ | ⟨c, _ | ⟨d, cs⟩⟩ := l
  · exact absurd hhyphen List.not_mem_nil
  · rw [← List.mem_singleton.mp hhyphen] at hl
    exact absurd hl (by decide)
  · exact Nat.le_add_left 2 cs.length

theorem plainCommands_eq (h : Returned l l') (hl : isComment l = true) :
    plainCommands [l'] = plainCommands [l] := by
  obtain rfl | rfl := h
  · rfl
  · rw [plainCommands_singleton, plainCommands_singleton]
    have hmem : '-' ∈ l ++ ['\r'] ↔ '-' ∈ l := by simp
    -- two characters are dropped whatever they are, but they are there before the return
    by_cases hhyphen : '-' ∈ l
    · rw [if_pos (hmem.mpr hhyphen), if_pos hhyphen,
        List.drop_append_of_le_length (two_le_length hl hhyphen), trim_append_return]
    · rw [if_neg (mt hmem.mp hhyphen), if_neg hhyphen]

end Returned

/-- Carriage returns at line ends do not change the record. -/
theorem ofLines_eq (h : List.Forall₂ Returned ls ls') (hls : ∀ l ∈ ls, isComment l = true) :
    ofLines ls' = ofLines ls := by
  have hboth : ls'.map Line.read = ls.map Line.read ∧ plainCommands ls' = plainCommands ls := by
    induction h with
    | nil => exact ⟨rfl, rfl⟩
    | @cons l l' ls ls' hl _ ih =>
      rw [List.forall_mem_cons] at hls
      obtain ⟨hread, hcommands⟩ := ih hls.2
      have happend : ∀ k ks, plainCommands (k :: ks) = plainCommands [k] ++ plainCommands ks :=
        fun k ks => plainCommands_append [k] ks
      constructor
      · rw [List.map_cons, List.map_cons, hread, Line.read, hl.clean_eq, Line.read]
      · rw [happend l', happend l, hl.plainCommands_eq hls.1, hcommands]
  rw [ofLines, ofLines, hboth.1, hboth.2]

theorem read_write_crlf (text : String) : read (LineEnd.crlf.write text) = read text := by
  have hblock := Lists.forall₂_takeWhile (p := isComment) (fun _ _ h => Returned.isComment_eq h)
    (lineList_writeList_crlf text.toList)
  rw [read_eq_ofLines, read_eq_ofLines, LineEnd.write, String.toList_ofList]
  exact ofLines_eq hblock fun l hl => (mem_block hl).1

theorem readFile_of_readBytes {t : FileTree} {p : Path} {bytes : Bytes}
    (h : t.readBytes p = .ok bytes) : readFile t p =
      ((FileTree.textOf bytes).mapError .decoding).map fun cs => read (String.ofList cs) := by
  rw [readFile, FileTree.readText_of_readBytes h]

theorem readFile_write {t : FileTree} {p : Path} {e : LineEnd} {text : String}
    (htext : '\r' ∉ text.toList) (hbytes : t.readBytes p = .ok (Utf8.encode (e.write text))) :
    readFile t p = .ok (read text) := by
  have hdecode : Utf8.decode (Utf8.encode (e.write text)) = .ok (e.writeList text.toList) :=
    Utf8.decode_eq_ok_iff.mpr rfl
  rw [readFile_of_readBytes hbytes, FileTree.textOf, hdecode, Except.map,
    unifyLineEnds_writeList e htext, Except.mapError, Except.map, String.ofList_toList]

theorem readFile_of_not_text {t : FileTree} {p : Path} {bytes : Bytes}
    (hbytes : t.readBytes p = .ok bytes) (hnone : ∀ text : String, Utf8.encode text ≠ bytes) :
    ∃ f, readFile t p = .error f ∧ f.family = "UnicodeDecodeError" := by
  cases hdecode : Utf8.decode bytes with
  | ok cs => exact absurd (Utf8.decode_eq_ok_iff.mp hdecode) (hnone _)
  | error f =>
    refine ⟨.decoding f, ?_, rfl⟩
    rw [readFile_of_readBytes hbytes, FileTree.textOf, hdecode]
    rfl

/-- Line ends make no difference to a header: not CRLF in a text, and neither CRLF nor CR in a file.
A file that is not UTF-8 has no record. -/
theorem readFile_lineEnds :
    (∀ text : String, read (LineEnd.crlf.write text) = read text) ∧
    ∀ (t : FileTree) (p : Path) (bytes : Bytes), t.readBytes p = .ok bytes →
      (∀ (e : LineEnd) (text : String), '\r' ∉ text.toList →
        Utf8.encode (e.write text) = bytes → readFile t p = .ok (read text)) ∧
      ((∀ text : String, Utf8.encode text ≠ bytes) →
        ∃ f, readFile t p = .error f ∧ f.family = "UnicodeDecodeError") := by
  refine ⟨read_write_crlf, fun t p bytes hbytes => ⟨?_, readFile_of_not_text hbytes⟩⟩
  rintro e text htext rfl
  exact readFile_write htext hbytes

/-- A file with CR line ends, and a file that ends within a character. -/
theorem readFile_lineEnds_accents :
    let text := "#\n// à-\n#-\n\nrobot"
    let p := Path.root.child "a.py"
    let t := fun bytes : Bytes => FileTree.dir [("a.py", .file bytes)]
    '\r' ∉ text.toList ∧ (t [0x23, 0xC3]).readBytes p = .ok [0x23, 0xC3] ∧
      (∀ text : String, Utf8.encode text ≠ [0x23, 0xC3]) ∧
      read (LineEnd.crlf.write text) = { commands := ["à-", ""] } ∧
      readFile (t (Utf8.encode (LineEnd.cr.write text))) p = .ok { commands := ["à-", ""] } ∧
      ∃ f, readFile (t [0x23, 0xC3]) p = .error f ∧ f.family = "UnicodeDecodeError" := by
  intro text p t
  have hread : read text = { commands := ["à-", ""] } := by decide +kernel
  have htext : '\r' ∉ text.toList := by decide +kernel
  have hcr : (t (Utf8.encode (LineEnd.cr.write text))).readBytes p =
      .ok (Utf8.encode (LineEnd.cr.write text)) := by decide +kernel
  have hbroken : (t [0x23, 0xC3]).readBytes p = .ok [0x23, 0xC3] := by decide +kernel
  have hnone : ∀ text : String, Utf8.encode text ≠ [0x23, 0xC3] := by
    intro text hencode
    rw [← String.ofList_toList (s := text), ← Utf8.decode_eq_ok_iff] at hencode
    have hfault : Utf8.decode [0x23, 0xC3] = .error ⟨1, 0xC3, 1, .endOfData⟩ := by decide +kernel
    rw [hfault] at hencode
    cases hencode
  obtain ⟨hcrlf, hfile⟩ := readFile_lineEnds
  refine ⟨htext, hbroken, hnone, (hcrlf text).trans hread, ?_, (hfile _ p _ hbroken).2 hnone⟩
  exact hread ▸ (hfile _ p _ hcr).1 .cr text htext rfl

end Header

end ScriptHelp
