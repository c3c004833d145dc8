import ShortHand.Serving.AccountingRuns
import ShortHand.Serving.RetentionRuns
import ShortHand.Routing.Coherence
import ShortHand.Enterprise.Moves
import ShortHand.Language.SoundRuns
import ShortHand.Inference.ImmutableModel
import ShortHand.Inference.PreparedCache
import ShortHand.Serving.Capacity
import ShortHand.Evidence.Measurement
import ShortHand.Evidence.Scoring
import ShortHand.Application.AllOrNothing
import ShortHand.Evidence.Consumable
import ShortHand.Serving.Cancellation
import ShortHand.Tooling.Preservation
import ShortHand.Training.Threads
import ShortHand.Language.Booleans
import ShortHand.Language.Declared
import ShortHand.Modules.Closure
import ShortHand.Modules.Publication
import ShortHand.Codegen.Agreement
import ShortHand.Codegen.Integers
import ShortHand.Application.Ranges
import ShortHand.Codegen.Symbols
import ShortHand.Modules.Versions
import ShortHand.Evidence.Ageing
import ShortHand.Serving.Expiry
import ShortHand.Energy.Counters
import ShortHand.Routing.Selection
import ShortHand.Library.Strides
import ShortHand.Tooling.Columns
import ShortHand.Tooling.Canonical
import ShortHand.Serving.Health
import ShortHand.Evidence.Integrity
