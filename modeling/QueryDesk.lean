import QueryDesk.CommandLine
import QueryDesk.Directory
import QueryDesk.Main
import QueryDesk.OData.Prefer
import QueryDesk.Proofs.AliasNames
import QueryDesk.Proofs.AliasUse
import QueryDesk.Proofs.ColumnFrame
import QueryDesk.Proofs.ColumnNames
import QueryDesk.Proofs.ComparedValues
import QueryDesk.Proofs.ExportedRows
import QueryDesk.Proofs.InterleavedCalls
import QueryDesk.Proofs.JoinOrder
import QueryDesk.Proofs.JoinWalks
import QueryDesk.Proofs.JoinedCells
import QueryDesk.Proofs.OwnerAccess
import QueryDesk.Proofs.Paging
import QueryDesk.Proofs.RejectedRequests
import QueryDesk.Proofs.RepeatedFields
import QueryDesk.Proofs.ResultColumns
import QueryDesk.Proofs.SavedRegister
import QueryDesk.Proofs.Secrets
import QueryDesk.Proofs.SeparateUsers
import QueryDesk.Proofs.SheetRanges
import QueryDesk.Proofs.SiblingNames
import QueryDesk.Proofs.StoredQueries
import QueryDesk.Proofs.WrittenCharacters
import QueryDesk.Web.Service
import QueryDesk.Wire.Loopback
import QueryDesk.Wire.WebApi
import QueryDesk.Proofs.Registrations
import QueryDesk.Proofs.SheetTitles
import QueryDesk.Proofs.Enrichment
import QueryDesk.Proofs.PartialMetadata
