import RefAtlas.Main
import RefAtlas.Proofs.Command.Accounting
import RefAtlas.Proofs.Data.ReadBack
import RefAtlas.Proofs.Graph.Expansion
import RefAtlas.Proofs.Graph.Parallel
import RefAtlas.Proofs.Graph.Reading
import RefAtlas.Proofs.Graph.Targets
import RefAtlas.Proofs.Layout.Coordinator.SingleCall
import RefAtlas.Proofs.Layout.Grouped
import RefAtlas.Proofs.Layout.Modes
import RefAtlas.Proofs.Layout.Session
import RefAtlas.Proofs.Reference.TypeNames
import RefAtlas.Proofs.Source.Eligible
import RefAtlas.Proofs.Chunk
import RefAtlas.Proofs.Layout.Packing.Slots
import RefAtlas.Proofs.Layout.Packing.Extents
import RefAtlas.Proofs.Layout.Packing.Best
import RefAtlas.Proofs.Reference.ArrayRanks
import RefAtlas.Proofs.Reference.HeadWords
import RefAtlas.Proofs.Reference.SpelledNames
import RefAtlas.Proofs.Reference.HiddenNames
import RefAtlas.Proofs.Layout.Coordinator.Invariant
import RefAtlas.Proofs.Reference.Parameters
import RefAtlas.Proofs.Reference.AttributeUsages
import RefAtlas.Proofs.Reference.RootQualifier
import RefAtlas.Proofs.Layout.ConnectedPlan
import RefAtlas.Proofs.Layout.Grouping
import RefAtlas.Proofs.Layout.UniformCells
import RefAtlas.Proofs.Layout.Balance
import RefAtlas.Proofs.Layout.SpeedLimit
import RefAtlas.Proofs.Layout.IdleInput
import RefAtlas.Proofs.Layout.Rigid
import RefAtlas.Proofs.Layout.Packing.Order
import RefAtlas.Proofs.Layout.Packing.Squares
import RefAtlas.Proofs.Layout.Batches
import RefAtlas.Proofs.Reference.RuleUnion
import RefAtlas.Proofs.Layout.Lookups
import RefAtlas.Proofs.Reference.AliasTable
import RefAtlas.Proofs.Text.InOrder
import RefAtlas.Proofs.Reference.ListParts
import RefAtlas.Proofs.Text.Slice
import RefAtlas.Proofs.Reference.InnerTypes
import RefAtlas.Proofs.Reference.CheckedReadings
