import ScriptHelp.Config
import ScriptHelp.Reply.Responder
import ScriptHelp.Source.Load

namespace ScriptHelp

structure Snapshot where
  responder : Responder
  errors : List SourceError

namespace Snapshot

def botOf (host : Host) (c : Config) : Bot where
  host := host
  cwd := (host.directory.join c.cwd).resolve
  limit := .real c.sourceTimeout

def responderOf (room : Nat) (c : Config) (corpus : Corpus) : Responder where
  corpus := corpus
  index := .ofCorpus room corpus none
  robotName := c.robotName
  robotAlias := c.robotAlias
  limit := c.catchAllLimit

/-- Loads everything from the files and settings as they are now. -/
def load (host : Host) (e : Environment) : Snapshot :=
  let c := Config.ofEnvironment e
  let l := (botOf host c).load
  ⟨responderOf host.stack.pattern c l.corpus, l.errors⟩

def corpus (s : Snapshot) : Corpus := s.responder.corpus

def index (s : Snapshot) : Index := s.responder.index

end Snapshot

end ScriptHelp
