import ScriptHelp.Fields
import ScriptHelp.Main
import ScriptHelp.Service.Crowd
import ScriptHelp.Proofs.CorpusMerge
import ScriptHelp.Proofs.HeaderReading
import ScriptHelp.Proofs.HeaderMarkers
import ScriptHelp.Proofs.LoadOrder
import ScriptHelp.Proofs.CrowdSteps
import ScriptHelp.Proofs.CrowdHistory
import ScriptHelp.Proofs.ServiceTurns
import ScriptHelp.Proofs.SessionHistory
import ScriptHelp.Proofs.ScriptQueries
import ScriptHelp.Proofs.SearchTiers
import ScriptHelp.Proofs.ToolAnswers
import ScriptHelp.Proofs.HeaderWriting
import ScriptHelp.Proofs.CrowdTurns
import ScriptHelp.Proofs.DeclarationEdits
import ScriptHelp.Proofs.FailingSources
import ScriptHelp.Proofs.SessionTogether
import ScriptHelp.Proofs.PatternReading
import ScriptHelp.Proofs.LetterCase
import ScriptHelp.Proofs.LiteralQueries
import ScriptHelp.Proofs.Addresses
import ScriptHelp.Proofs.EntryFiles
import ScriptHelp.Proofs.HeaderFillers
import ScriptHelp.Proofs.SliceQueries
import ScriptHelp.Proofs.HeaderHalves
import ScriptHelp.Proofs.LineEnds
import ScriptHelp.Proofs.DeclarationForms
import ScriptHelp.Proofs.DeclarationOrder
import ScriptHelp.Proofs.CrowdResets
import ScriptHelp.Proofs.NameAndAlias
import ScriptHelp.Proofs.LoweredWords
import ScriptHelp.Proofs.CollapsedTexts
import ScriptHelp.Proofs.Messages
import ScriptHelp.Proofs.WordQueries
import ScriptHelp.Proofs.Listings
import ScriptHelp.Proofs.Suggestions
import ScriptHelp.Proofs.ScriptOrder
import ScriptHelp.Proofs.Envelopes
import ScriptHelp.Proofs.Launches
