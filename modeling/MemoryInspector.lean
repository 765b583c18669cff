import MemoryInspector.Main
import MemoryInspector.Pattern.Reading
import MemoryInspector.Proofs.Expression.Evaluation
import MemoryInspector.Proofs.Memory.Image
import MemoryInspector.Proofs.Session.Dump
import MemoryInspector.Proofs.Hierarchy.Enumeration
import MemoryInspector.Proofs.Memory.CoreDump
import MemoryInspector.Proofs.Hierarchy.Termination
import MemoryInspector.Proofs.DebugInfo.Collection
import MemoryInspector.Proofs.Config.Application
import MemoryInspector.Proofs.Config.Order
import MemoryInspector.Proofs.Config.Fit
import MemoryInspector.Proofs.Config.Definition
import MemoryInspector.Proofs.Config.Containment
import MemoryInspector.Proofs.Hierarchy.Reads
import MemoryInspector.Proofs.Session.Printable
import MemoryInspector.Proofs.Session.DumpRun
import MemoryInspector.Proofs.Session.Script
import MemoryInspector.Proofs.Memory.Seam
import MemoryInspector.Proofs.DebugInfo.Ending
import MemoryInspector.Proofs.DebugInfo.WellFormed
import MemoryInspector.Proofs.DebugInfo.Denotation
import MemoryInspector.Proofs.DebugInfo.Declaration
import MemoryInspector.Proofs.DebugInfo.TypeDefinition
import MemoryInspector.Proofs.DebugInfo.UnnamedRecord
import MemoryInspector.Proofs.Expression.Conversion
import MemoryInspector.Proofs.Expression.Failure
import MemoryInspector.Proofs.Hierarchy.Whole
import MemoryInspector.Proofs.DebugInfo.Units
import MemoryInspector.Proofs.Expression.Identity
import MemoryInspector.Proofs.TypeName.Spelling
import MemoryInspector.Proofs.Hierarchy.Extension
import MemoryInspector.Proofs.Session.Detour
import MemoryInspector.Proofs.Target.Array
import MemoryInspector.Proofs.Render.Array
import MemoryInspector.Proofs.TypeName.Grammar
import MemoryInspector.Proofs.Symbols
import MemoryInspector.Proofs.CommandLine.Line
import MemoryInspector.Proofs.DebugInfo.BaseType
import MemoryInspector.Proofs.Session.ShortReads
import MemoryInspector.Proofs.DebugInfo.Caching
import MemoryInspector.Proofs.Expression.Writing
import MemoryInspector.Proofs.Target.Number
import MemoryInspector.Proofs.Registry.Size
import MemoryInspector.Proofs.Hierarchy.Stamp
