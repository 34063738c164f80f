import ScriptHelp.Record

namespace ScriptHelp

structure Corpus where
  entries : List (String × Record)
  nodup : (entries.map (·.1)).Nodup

namespace Corpus

def alter (k : String) (f : Option Record → Record) :
    List (String × Record) → List (String × Record)
  | [] => [(k, f none)]
  | (n, r) :: es => if n = k then (n, f (some r)) :: es else (n, r) :: alter k f es

theorem map_fst_alter (k : String) (f : Option Record → Record) (es : List (String × Record)) :
    (alter k f es).map (·.1) =
      if k ∈ es.map (·.1) then es.map (·.1) else es.map (·.1) ++ [k] := by
  induction es with
  | nil => rfl
  | cons e es ih =>
    obtain ⟨n, r⟩ := e
    by_cases h : n = k
    · simp [alter, h]
    · have h' : ¬ k = n := fun e => h e.symm
      simp only [alter, h, if_false, List.map_cons, ih, List.mem_cons, h', false_or]
      split <;> rfl

theorem nodup_alter (k : String) (f : Option Record → Record) {es : List (String × Record)}
    (h : (es.map (·.1)).Nodup) : ((alter k f es).map (·.1)).Nodup := by
  rw [map_fst_alter]
  split
  · exact h
  · rename_i hk
    rw [List.nodup_append]
    refine ⟨h, by simp, ?_⟩
    intro a ha b hb
    simp only [List.mem_singleton] at hb
    subst hb
    exact fun e => hk (e ▸ ha)

def empty : Corpus := ⟨[], List.nodup_nil⟩

def names (c : Corpus) : List String := c.entries.map (·.1)

def size (c : Corpus) : Nat := c.entries.length

def get? (c : Corpus) (k : String) : Option Record := c.entries.lookup k

/-- An existing key keeps its place and takes the new record. -/
def insert (c : Corpus) (k : String) (r : Record) : Corpus :=
  ⟨alter k (fun _ => r) c.entries, nodup_alter k _ c.nodup⟩

/-- An existing key keeps its place, and its record is merged with the new one. -/
def add (c : Corpus) (k : String) (r : Record) : Corpus :=
  ⟨alter k (fun old => (Record.merge? old (some r)).getD r) c.entries, nodup_alter k _ c.nodup⟩

def ofList (es : List (String × Record)) : Corpus := es.foldl (fun c e => c.insert e.1 e.2) empty

def collect (es : List (String × Record)) : Corpus := es.foldl (fun c e => c.add e.1 e.2) empty

def commands (c : Corpus) : List String := c.entries.flatMap (·.2.commands)

end Corpus

end ScriptHelp
