import Quickstep.Utility.BitVectorRefinement
import Quickstep.Expressions.WindowAggregation.Cumulative
import Quickstep.Expressions.WindowAggregation.SlidingRows
import Quickstep.Expressions.WindowAggregation.RangeEmission
import Quickstep.Expressions.WindowAggregation.SlidingRange
import Quickstep.Expressions.CaseSemantics
import Quickstep.Expressions.ProtoRoundTrip
import Quickstep.Expressions.ExpressionClones
import Quickstep.StreamingOperators.StreamingSelectOperator
import Quickstep.Expressions.WindowAggregation.StartValue
import Quickstep.Expressions.WindowAggregation.Termination
import Quickstep.Expressions.WindowAggregation.WindowSafety
import Quickstep.Expressions.WindowAggregation.ComputedArguments
import Quickstep.StreamingOperators.ProjectionPaths
import Quickstep.StreamingOperators.StreamingSelectBatches
import Quickstep.Lib.Levels
import Quickstep.Utility.DAG
import Quickstep.Utility.StageSequence
import Quickstep.Lib.Interleaving
import Quickstep.Threading.SpinSharedMutex
import Quickstep.Utility.BloomFilter
import Quickstep.Utility.BloomFilterSoundness
import Quickstep.Catalog.CatalogRelationSchema
import Quickstep.Lib.ObjectHeap
import Quickstep.Utility.PtrVector
import Quickstep.Catalog.CatalogDatabase
import Quickstep.Catalog.CatalogDatabaseRefinement
import Quickstep.Catalog.CatalogSerialization
import Quickstep.Catalog.Catalog
import Quickstep.Types.Coercion
import Quickstep.Types.DateOperatorOverloads
import Quickstep.Types.UnaryOperations
import Quickstep.Types.BinaryOperations
import Quickstep.Types.OperationTyping
import Quickstep.Expressions.TypeSoundness
import Quickstep.Expressions.StaticFolding
import Quickstep.Lib.Re2
import Quickstep.Types.LikePatterns
import Quickstep.Utility.BitVectorShifts
import Quickstep.Utility.BitManipulation
import Quickstep.Utility.BitVectorSearch
import Quickstep.Lib.CString
import Quickstep.Types.ComparisonFunctors
import Quickstep.Types.StringComparison
import Quickstep.Types.ComparatorLoops
import Quickstep.Types.DataPtrComparators
import Quickstep.Types.LiteralComparators
import Quickstep.Types.AsciiStringComparators
import Quickstep.Types.PatternMatchingComparators
import Quickstep.Lib.SelectingFold
import Quickstep.Types.Accumulation
import Quickstep.Expressions.JoinNodes
import Quickstep.Types.OperatorAgreement
import Quickstep.Expressions.JoinEvaluation
import Quickstep.Expressions.JoinExpressionTree
import Quickstep.Common.TupleIdSequenceIteration
import Quickstep.Lib.Cursor
import Quickstep.Types.ValueAccessorIteration
import Quickstep.Lib.Calendar
import Quickstep.Lib.CheckedInt
import Quickstep.Types.Timegm
import Quickstep.Types.Gmtime
import Quickstep.Types.CalendarArithmetic
import Quickstep.Lib.FormattedText
import Quickstep.Types.IntervalParser
import Quickstep.Types.IntervalTypes
import Quickstep.Types.DatetimeIntervalText
import Quickstep.Types.YearMonthIntervalText
import Quickstep.Types.DatetimeType
import Quickstep.Types.DatetimeText
import Quickstep.Types.DatetimeParsing
import Quickstep.Types.DatetimePrinting
import Quickstep.Lib.WordFields
import Quickstep.Types.ValueUnion
import Quickstep.Types.TypedValueHash
import Quickstep.Types.StringCoercion
import Quickstep.Types.TypeLattice
import Quickstep.Lib.DepthFirst
import Quickstep.Utility.CycleDetection
import Quickstep.Catalog.RelationLayout
import Quickstep.Lib.Monitor
import Quickstep.Threading.SharedMutex
import Quickstep.Lib.Bytes
import Quickstep.Lib.WriteHistory
import Quickstep.Types.ColumnVector
import Quickstep.Types.ColumnVectorRefinement
import Quickstep.Types.ColumnVectorLoops
import Quickstep.Types.SubstringWrites
import Quickstep.Expressions.JoinUnaryOperators
import Quickstep.Types.ArithmeticBinaryOperators
import Quickstep.Types.ArithmeticLoops
import Quickstep.Expressions.JoinArithmeticOperators
import Quickstep.Lib.ScannedFields
import Quickstep.Types.IntervalGrammar
import Quickstep.Types.IntervalScans
import Quickstep.Types.DatetimeIntervalExactness
import Quickstep.Types.YearMonthIntervalExactness
import Quickstep.Types.IntervalExactness
import Quickstep.Lib.BoundedWords
import Quickstep.Utility.BitVectorMemory
import Quickstep.Utility.BitVectorMemorySafety
import Quickstep.Utility.BitVectorMemoryRange
import Quickstep.Utility.BloomFilterHashFunctions
import Quickstep.Utility.ShardedLockManager
import Quickstep.Utility.StringUtil
import Quickstep.Lib.SortedTables
import Quickstep.Lib.TrialDivision
import Quickstep.Types.DateType
import Quickstep.Types.DatetimeFieldExtraction
import Quickstep.Utility.PrimeTables
import Quickstep.Utility.PrimeNumber
import Quickstep.Utility.ThreadSafeQueue
import Quickstep.Threading.ThreadIDBasedMap
import Quickstep.Lib.Ownership
import Quickstep.Types.TypedValueOwnership
import Quickstep.Types.ValueStore
import Quickstep.Types.PartialSignatures
import Quickstep.Lib.Lines
import Quickstep.Utility.TextBasedTestDriver
import Quickstep.Lib.CriticalSections
import Quickstep.Lib.LockedObjects
import Quickstep.Catalog.CatalogDatabaseThreads
import Quickstep.Types.IntegerTexts
