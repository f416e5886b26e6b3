import LuaIntrospect.Decimal.Binary
import LuaIntrospect.Decimal.Shortest
import LuaIntrospect.Decimal.Read
import LuaIntrospect.Builtin
import LuaIntrospect.Value.Basic
import LuaIntrospect.Value.Text
import LuaIntrospect.Table
import LuaIntrospect.Source.Span
import LuaIntrospect.Source.Chunk
import LuaIntrospect.Stack.Frame
import LuaIntrospect.Stack.CallStack
import LuaIntrospect.Fault
import LuaIntrospect.Yield
import LuaIntrospect.Debug.Info
import LuaIntrospect.Machine.Script
import LuaIntrospect.Machine.Event
import LuaIntrospect.Machine.State
import LuaIntrospect.Machine.Report
import LuaIntrospect.Machine.Library
import LuaIntrospect.Machine.Eval
import LuaIntrospect.Machine.Exec
import LuaIntrospect.Machine.Session
import LuaIntrospect.Ron.Token
import LuaIntrospect.Ron.Compound
import LuaIntrospect.Inspector.Snapshot
import LuaIntrospect.Json.Pretty
import LuaIntrospect.Inspector.Args
import LuaIntrospect.Inspector.Command
import LuaIntrospect.Main
import LuaIntrospect.Proofs.Keeps
import LuaIntrospect.Proofs.Quiet
import LuaIntrospect.Proofs.Evolves
import LuaIntrospect.Proofs.Calls
import LuaIntrospect.Proofs.RunInvariant
import LuaIntrospect.Proofs.WrappedClosure
import LuaIntrospect.Proofs.YieldSinks
import LuaIntrospect.Proofs.StackDiscipline
import LuaIntrospect.Proofs.Trampoline
import LuaIntrospect.Proofs.ErrorLocation
import LuaIntrospect.Proofs.Equality
import LuaIntrospect.Proofs.Metatables
import LuaIntrospect.Proofs.SnapshotReading
import LuaIntrospect.Proofs.SnapshotLoading
import LuaIntrospect.Proofs.Inspection
import LuaIntrospect.Proofs.LinePositions
import LuaIntrospect.Proofs.DebugLevels
import LuaIntrospect.Proofs.FloatIntegers
import LuaIntrospect.Proofs.TableKeys
import LuaIntrospect.Proofs.DeeperRuns
import LuaIntrospect.Proofs.BlindBodies
import LuaIntrospect.Proofs.NestedWrap
import LuaIntrospect.Proofs.InfoRecords
import LuaIntrospect.Proofs.ChunkNames
import LuaIntrospect.Proofs.Upvalues
import LuaIntrospect.Proofs.ShortNames
import LuaIntrospect.Proofs.TableBorder
import LuaIntrospect.Proofs.Rounding
import LuaIntrospect.Proofs.DecimalDigits
import LuaIntrospect.Proofs.FloatText
