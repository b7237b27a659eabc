import CypherTemplate.Adapter
import CypherTemplate.Codec.Query
import CypherTemplate.Codec.Template
import CypherTemplate.Query.Inline
import CypherTemplate.Proofs.Demand
import CypherTemplate.Proofs.WellFormed
import CypherTemplate.Proofs.Cut
import CypherTemplate.Proofs.Substitution
import CypherTemplate.Proofs.ReadBack
import CypherTemplate.Proofs.Readable
import CypherTemplate.Proofs.Normal
import CypherTemplate.Proofs.ReadableExpr
import CypherTemplate.Proofs.Unambiguous
import CypherTemplate.Proofs.Influence
import CypherTemplate.Proofs.Scaling
import CypherTemplate.Proofs.ScanNumber
import CypherTemplate.Proofs.ScanText
import CypherTemplate.Proofs.Nesting
import CypherTemplate.Proofs.Invertible
import CypherTemplate.Proofs.InvertibleRecord
import CypherTemplate.Proofs.Stored
import CypherTemplate.Proofs.StoredTemplate
import CypherTemplate.Proofs.Reload
import CypherTemplate.Proofs.Composition
import CypherTemplate.Proofs.Mark
import CypherTemplate.Proofs.Lexical
import CypherTemplate.Proofs.WholeNumber
import CypherTemplate.Proofs.Links
import CypherTemplate.Proofs.Grouping
import CypherTemplate.Proofs.Strictness
import CypherTemplate.Proofs.Defect
import CypherTemplate.Proofs.Session
import CypherTemplate.Proofs.Groups
import CypherTemplate.Proofs.Draft
import CypherTemplate.Proofs.GroupText
import CypherTemplate.Proofs.Members
import CypherTemplate.Proofs.ReturnAlias
import CypherTemplate.Proofs.Segmentation
import CypherTemplate.Proofs.MapKeys
import CypherTemplate.Proofs.Decomposition
import CypherTemplate.Proofs.Equivalence
import CypherTemplate.Proofs.NormalName
import CypherTemplate.Proofs.SortKeys
import CypherTemplate.Proofs.Conjunction
import CypherTemplate.Proofs.History
import CypherTemplate.Proofs.Labels
import CypherTemplate.Proofs.StringToken
import CypherTemplate.Proofs.NameToken
