import ZoneGuard.Analysis
import ZoneGuard.CommandLine.Run
import ZoneGuard.Engine.Session
import ZoneGuard.Http.Service
import ZoneGuard.Machine
import ZoneGuard.Main
import ZoneGuard.Proofs.IdTable
import ZoneGuard.Proofs.Identifier
import ZoneGuard.Settings
import ZoneGuard.Text.Splice
import ZoneGuard.Proofs.Graph.Build
import ZoneGuard.Proofs.Graph.WellFormed
import ZoneGuard.Proofs.Spec.Values
import ZoneGuard.Proofs.Spec.Description
import ZoneGuard.Proofs.Spec.Content
import ZoneGuard.Proofs.NumberedNames
import ZoneGuard.Proofs.Graph.Conflict
import ZoneGuard.Proofs.Graph.ConnectionNames
import ZoneGuard.Proofs.Markup.Written
import ZoneGuard.Proofs.Markup.Nesting
import ZoneGuard.Proofs.Attribution
import ZoneGuard.Proofs.Markup.Truncation
import ZoneGuard.Proofs.Text.ByteOrder
import ZoneGuard.Proofs.RelationTable
import ZoneGuard.Proofs.Classification
import ZoneGuard.Proofs.Outcome
import ZoneGuard.Proofs.Group
import ZoneGuard.Proofs.Noninterference
import ZoneGuard.Proofs.Json.Order
import ZoneGuard.Proofs.Json.Parts
import ZoneGuard.Proofs.Json.Written
import ZoneGuard.Proofs.Arguments
import ZoneGuard.Proofs.RecordedOutput
import ZoneGuard.Proofs.Attribute
import ZoneGuard.Proofs.Json.Record
import ZoneGuard.Proofs.References
import ZoneGuard.Proofs.Respelling.Entity
import ZoneGuard.Proofs.Respelling.Payload
import ZoneGuard.Proofs.Respelling.Graph
import ZoneGuard.Proofs.Graph.Contents
import ZoneGuard.Proofs.Graph.Fault
import ZoneGuard.Proofs.Payload
import ZoneGuard.Proofs.Graph.Acceptance
import ZoneGuard.Proofs.Json.Schema
import ZoneGuard.Proofs.GraphSchema
import ZoneGuard.Proofs.Text.Lines
import ZoneGuard.Proofs.Spec.Emission
import ZoneGuard.Proofs.Spec.Reading
import ZoneGuard.Proofs.Spec.Forms
import ZoneGuard.Proofs.Spec.Signatures
import ZoneGuard.Proofs.Spec.Resolution
import ZoneGuard.Proofs.Spec.Compilation
import ZoneGuard.Proofs.Markup.Flattening
import ZoneGuard.Proofs.Markup.OpenElements
import ZoneGuard.Proofs.Markup.Viability
import ZoneGuard.Proofs.FirstAppearance
import ZoneGuard.Proofs.Graph.InferredData
import ZoneGuard.Proofs.Graph.NamedReferences
import ZoneGuard.Proofs.Markup.Walk
import ZoneGuard.Proofs.Extraction
import ZoneGuard.Proofs.Markup.Insertion
import ZoneGuard.Proofs.Markup.FoundTags
import ZoneGuard.Proofs.Markup.Placement
import ZoneGuard.Proofs.Markup.AttributeValues
import ZoneGuard.Proofs.LocalRules
import ZoneGuard.Proofs.Absorption
import ZoneGuard.Proofs.Files.EntryName
import ZoneGuard.Proofs.Engine.ResultFiles
import ZoneGuard.Proofs.Summary.Lines
import ZoneGuard.Proofs.Summary.Layout
import ZoneGuard.Proofs.Summary
import ZoneGuard.Proofs.Text.Replacement
import ZoneGuard.Proofs.Text.ReplacementInTurn
import ZoneGuard.Proofs.Engine.Placeholders
import ZoneGuard.Proofs.Registration
import ZoneGuard.Proofs.Engine.Recording
import ZoneGuard.Proofs.Engine.Preparation
import ZoneGuard.Proofs.Json.Grammar
import ZoneGuard.Proofs.Http.Answers
