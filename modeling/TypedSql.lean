import TypedSql.Connection.Scripted
import TypedSql.Main
import TypedSql.Query.Inspected
import TypedSql.Proofs.Regions
import TypedSql.Proofs.Writing
import TypedSql.Proofs.Parts
import TypedSql.Proofs.Steps
import TypedSql.Proofs.Placeholders
import TypedSql.Proofs.Positions
import TypedSql.Proofs.ReadBack
import TypedSql.Proofs.QualifiedNames
import TypedSql.Proofs.SourceNames
import TypedSql.Proofs.JoinedStar
import TypedSql.Proofs.Catalog
import TypedSql.Proofs.ResultAlignment
import TypedSql.Proofs.Inlining
import TypedSql.Proofs.RangeGrouping
import TypedSql.Proofs.NegationGrouping
import TypedSql.Proofs.UniqueReadability
import TypedSql.Proofs.Snapshots
import TypedSql.Proofs.Digits
import TypedSql.Proofs.Timestamps
import TypedSql.Proofs.Iteration
import TypedSql.Proofs.Clauses.Lexeme
import TypedSql.Proofs.Clauses.Contained
import TypedSql.Proofs.Clauses.Compound
import TypedSql.Proofs.Clauses.Sections
import TypedSql.Proofs.UnionMembers
import TypedSql.Proofs.FirstRow
import TypedSql.Proofs.ClauseHistories
import TypedSql.Proofs.FilterMeaning
import TypedSql.Proofs.NullableTags
import TypedSql.Proofs.GrammaticalStatements
import TypedSql.Proofs.Clauses.Insertion
import TypedSql.Proofs.InsertedRow
import TypedSql.Proofs.StoredValues
import TypedSql.Proofs.Recording
import TypedSql.Proofs.Expansions
import TypedSql.Proofs.DottedNames
import TypedSql.Proofs.SuffixLookup
import TypedSql.Proofs.PresenceTest
import TypedSql.Proofs.ScalarReading
import TypedSql.Proofs.Literals
import TypedSql.Proofs.ByteOrder
import TypedSql.Proofs.TimestampLayout
import TypedSql.Proofs.FilterByValue
import TypedSql.Proofs.TimeOrder
import TypedSql.Proofs.InlinedParts
import TypedSql.Proofs.StatementLists
import TypedSql.Proofs.ExclusiveOr
import TypedSql.Proofs.Number.Rounding
import TypedSql.Proofs.Number.ShortestDigits
import TypedSql.Proofs.Number.Numeral
import TypedSql.Proofs.Number.Unpacked
import TypedSql.Proofs.InlinedNumbers
import TypedSql.Proofs.RecognisedStars
import TypedSql.Proofs.Registrations
