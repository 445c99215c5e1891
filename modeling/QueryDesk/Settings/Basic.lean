import QueryDesk.Environment

/-!
# Settings

What can be configured, with the values that hold where nothing is said.
-/

namespace QueryDesk

structure ServerSettings where
  host : String := "127.0.0.1"
  portNumber : Nat := 3000
  deriving DecidableEq, Repr

structure RemoteSettings where
  apiVersion : String := "v9.2"
  authority : String := "https://login.microsoftonline.com"
  requestTimeout : Nat := 30
  connectTimeout : Nat := 10
  /-- how many entities are described at a time -/
  concurrency : Nat := 4
  deriving DecidableEq, Repr

structure PageOptions where
  defaultSize : Nat := 50
  maxSize : Nat := 5000
  deriving DecidableEq, Repr

/-- How much an export holds at most, and the name of its sheet. -/
structure ExportOptions where
  maxRows : Nat := 5000
  sheetName : String := "Query Results"
  deriving DecidableEq, Repr

structure LogSettings where
  level : String := "info"
  json : Bool := false
  deriving DecidableEq, Repr

structure Settings where
  server : ServerSettings := {}
  remote : RemoteSettings := {}
  paging : PageOptions := {}
  exporting : ExportOptions := {}
  logging : LogSettings := {}
  environments : List Environment := []
  deriving DecidableEq, Repr

end QueryDesk
