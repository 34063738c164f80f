import ScriptHelp.Proofs.LoweredWords
import ScriptHelp.Proofs.SearchTiers

namespace ScriptHelp.Index

open Text

def Counts (ignored : List String) (q w : String) : Prop :=
  w ∉ ignored ∧ ∃ v ∈ words q, lower v = w

variable {i j : Index} {e : Entry} {p q w : String} {ignored ignored' : List String}
  {room : Nat}

theorem counts_iff : Counts ignored q w ↔ IsWord w.toList (lower q).toList ∧ w ∉ ignored := by
  rw [Counts, ← mem_words, words_lower, List.mem_map, and_comm]

theorem mem_terms_iff_counts : w ∈ i.terms q ↔ Counts i.stopWords q w := by
  rw [mem_terms, counts_iff]

theorem answers_words_iff : e.Answers room ignored q .words ↔
    ∃ w, w ∈ words e.lowered ∧ Counts ignored q w := by
  simp only [Entry.Answers, counts_iff, mem_words]

theorem words_append_space (p q : String) : words (p ++ " " ++ q) = words p ++ words q := by
  have hlist : (p ++ " " ++ q).toList = p.toList ++ ' ' :: q.toList := by simp
  rw [words, hlist, wordList_append_whitespace (by decide), List.map_append]
  rfl

theorem counts_append : Counts ignored (p ++ " " ++ q) w ↔
    Counts ignored p w ∨ Counts ignored q w := by
  simp only [Counts, words_append_space, List.mem_append, or_and_right, exists_or, and_or_left]

theorem answers_append : e.Answers room ignored (p ++ " " ++ q) .words ↔
    e.Answers room ignored p .words ∨ e.Answers room ignored q .words := by
  simp only [answers_words_iff, counts_append, and_or_left, exists_or]

theorem mem_hits {t : Tier} :
    e ∈ i.hits q t ↔ e ∈ i.entries ∧ e.Answers i.room i.stopWords q t := by
  rw [hits, List.mem_filter, decide_eq_true_iff]

theorem hits_append : i.hits (p ++ " " ++ q) .words =
    i.entries.filter fun e => e ∈ i.hits p .words ∨ e ∈ i.hits q .words := by
  refine List.filter_congr fun e he => ?_
  rw [decide_eq_decide, answers_append, mem_hits, mem_hits]
  simp only [he, true_and]

/-- The term tier depends on the terms only. -/
theorem hits_words_congr (h : ∀ w, Counts i.stopWords p w ↔ Counts i.stopWords q w) :
    i.hits p .words = i.hits q .words := by
  refine List.filter_congr fun e _ => ?_
  rw [decide_eq_decide, answers_words_iff, answers_words_iff]
  exact exists_congr fun w => and_congr_right fun _ => h w

theorem hits_words_of_ignored (h : ∀ w ∈ words q, lower w ∈ i.stopWords) :
    i.hits q .words = [] := by
  rw [hits, List.filter_eq_nil_iff]
  intro e _ hanswers
  obtain ⟨w, -, hnot, v, hv, rfl⟩ := answers_words_iff.mp (of_decide_eq_true hanswers)
  exact hnot (h v hv)

theorem found_congr (h : ∀ w, w ∈ ignored ↔ w ∈ ignored') (es : List Entry) (t : Tier) :
    (Index.mk es ignored room).found q t = (Index.mk es ignored' room).found q t := by
  cases t with
  | part => rfl
  | pattern => rfl
  | words =>
    rw [found_words, found_words]
    refine congrArg Except.ok (List.filter_congr fun e _ => ?_)
    rw [decide_eq_decide, answers_words_iff, answers_words_iff]
    simp only [Counts, h]

theorem search_congr (h : ∀ t, i.found q t = j.found q t) : i.search q = j.search q := by
  have hin : ∀ ts, i.searchIn q ts = j.searchIn q ts := by
    intro ts
    induction ts with
    | nil => rfl
    | cons t ts ih => rw [searchIn, searchIn, h t, ih]
  rw [search, search, hin]

/-- In the term tier two queries joined by whitespace find what either finds. Queries with the same
terms find the same, and one of stop words finds nothing. The case of the stop words given does not
matter in any tier. -/
theorem found_words_counts (i : Index) (p q : String) :
    (∃ foundP foundQ, i.found p .words = .ok foundP ∧ i.found q .words = .ok foundQ ∧
      i.found (p ++ " " ++ q) .words =
        .ok (i.entries.filter fun e => e ∈ foundP ∨ e ∈ foundQ)) ∧
    ((∀ w, Counts i.stopWords p w ↔ Counts i.stopWords q w) →
      i.found p .words = i.found q .words) ∧
    ((∀ w ∈ words q, lower w ∈ i.stopWords) → i.found q .words = .ok []) ∧
    ∀ (room : Nat) (c : Corpus) (ws ws' : Option (List String)),
      (∀ w, w ∈ (ws.getD Stopwords.english).map lower ↔
        w ∈ (ws'.getD Stopwords.english).map lower) →
      (∀ t, (ofCorpus room c ws).found q t = (ofCorpus room c ws').found q t) ∧
        (ofCorpus room c ws).search q = (ofCorpus room c ws').search q := by
  refine ⟨⟨_, _, found_words, found_words, ?_⟩, fun h => ?_, fun h => ?_, fun room c ws ws' h => ?_⟩
  · rw [found_words, hits_append]
  · rw [found_words, found_words, hits_words_congr h]
  · rw [found_words, hits_words_of_ignored h]
  · have hfound : ∀ t, (ofCorpus room c ws).found q t = (ofCorpus room c ws').found q t := by
      rw [ofCorpus_eq, ofCorpus_eq]
      exact found_congr h _
    exact ⟨hfound, search_congr hfound⟩

/-- A final sigma has the same lowercase form before whitespace and at the end of a query. -/
theorem found_words_counts_sigma :
    let c : Corpus := ⟨[("line", { commands := ["hubot ΟΔΥΣΣΕΥΣ", "hubot open door"] })], by simp⟩
    let i := ofCorpus 0 c (some ["The"])
    let p := "the ΟΔΥΣΣΕΥΣ"
    let q := "ΟΔΥΣΣΕΥΣ\u2003THE ΟΔΥΣΣΕΥΣ"
    (∀ w, Counts i.stopWords p w ↔ Counts i.stopWords q w) ∧ i.found p .words = i.found q .words ∧
      i.found "THE the" .words = .ok [] ∧
      i.search p = (ofCorpus 0 c (some ["tHE", "the"])).search p := by
  intro c i p q
  have hterms : i.terms p = ["οδυσσευς"] ∧ i.terms q = ["οδυσσευς", "οδυσσευς"] := by
    decide +kernel
  have hcounts : ∀ w, Counts i.stopWords p w ↔ Counts i.stopWords q w := by
    intro w
    rw [← mem_terms_iff_counts, ← mem_terms_iff_counts, hterms.1, hterms.2]
    simp
  have hstop : ∀ w ∈ words "THE the", lower w ∈ i.stopWords := by decide +kernel
  have hletters : ["The"].map lower = ["the"] ∧ ["tHE", "the"].map lower = ["the", "the"] := by
    decide +kernel
  have hsame : ∀ w, w ∈ ["The"].map lower ↔ w ∈ ["tHE", "the"].map lower := by simp [hletters]
  obtain ⟨-, hcong, -⟩ := found_words_counts i p q
  obtain ⟨-, -, hnone, -⟩ := found_words_counts i q "THE the"
  obtain ⟨-, -, -, halike⟩ := found_words_counts i q p
  exact ⟨hcounts, hcong hcounts, hnone hstop,
    (halike 0 c (some ["The"]) (some ["tHE", "the"]) hsame).2⟩

end ScriptHelp.Index
