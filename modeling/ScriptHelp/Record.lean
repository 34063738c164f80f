import ScriptHelp.Section

namespace ScriptHelp

structure Record where
  description : List String := []
  dependencies : List String := []
  configuration : List String := []
  commands : List String := []
  notes : List String := []
  author : List String := []
  examples : List String := []
  tags : List String := []
  urls : List String := []
  deriving DecidableEq, Repr

namespace Record

def get (r : Record) : Section → List String
  | .description => r.description
  | .dependencies => r.dependencies
  | .configuration => r.configuration
  | .commands => r.commands
  | .notes => r.notes
  | .author => r.author
  | .examples => r.examples
  | .tags => r.tags
  | .urls => r.urls

def ofSections (f : Section → List String) : Record :=
  ⟨f .description, f .dependencies, f .configuration, f .commands, f .notes, f .author,
    f .examples, f .tags, f .urls⟩

@[simp] theorem get_ofSections (f : Section → List String) (s : Section) :
    (ofSections f).get s = f s := by cases s <;> rfl

theorem ext_get {a b : Record} (h : ∀ s, a.get s = b.get s) : a = b := by
  cases a; cases b
  simpa [get] using And.intro (h .description) <| And.intro (h .dependencies) <|
    And.intro (h .configuration) <| And.intro (h .commands) <| And.intro (h .notes) <|
    And.intro (h .author) <| And.intro (h .examples) <| And.intro (h .tags) (h .urls)

def update (r : Record) (s : Section) (f : List String → List String) : Record :=
  ofSections fun t => if t = s then f (r.get t) else r.get t

theorem get_update (r : Record) (s t : Section) (f : List String → List String) :
    (r.update s f).get t = if t = s then f (r.get t) else r.get t := by simp [update]

def isEmpty (r : Record) : Bool := Section.all.all fun s => (r.get s).isEmpty

/-- The populated sections, in the order of `Section.all`. -/
def populated (r : Record) : List (Section × List String) :=
  (Section.all.map fun s => (s, r.get s)).filter fun p => !p.2.isEmpty

def firstDescription (r : Record) : String := r.description.headD ""

def firsts {α : Type} [DecidableEq α] : List α → List α
  | [] => []
  | l :: ls => l :: (firsts ls).filter (· ≠ l)

def merge (a b : Record) : Record := ofSections fun s => firsts (a.get s ++ b.get s)

/-- `none` is neutral, so a lone record keeps its repeated lines. -/
def merge? : Option Record → Option Record → Option Record
  | none, b => b
  | some a, none => some a
  | some a, some b => some (a.merge b)

end Record

end ScriptHelp
