import CodeAudit.Scan.Finding

/-!
# Requests to a catalog

Everything that is asked of a catalog between its making and its end, one step each. A request that
fails has no reply and leaves the catalog as it was.
-/

namespace CodeAudit.Scan

open CodeAudit.Rule (Catalog Compiled Definition Problem Stats TableError)
open CodeAudit.Source (Buffer)

inductive Request where
  | rules (category : Option String)
  | clear
  | problems
  | stats
  | definitions
  | scan (buffer : Buffer) (filename : String) (category : Option String) (limit : Option Int)
  deriving Repr, Inhabited

inductive Reply where
  | rules (rules : List Compiled)
  | cleared
  | problems (problems : List Problem)
  | stats (stats : Stats)
  | definitions (definitions : List Definition)
  | findings (findings : List Finding)
  deriving Repr, Inhabited

inductive RequestError where
  | table (error : TableError)
  | pattern (error : Regex.Error)
  | scan (error : ScanError)
  deriving Repr, Inhabited

def Request.serve (catalog : Catalog) : Request → Except RequestError Reply × Catalog
  | .rules category =>
    match catalog.compiled category with
    | .ok (compiled, catalog) => (.ok (.rules compiled), catalog)
    | .error e => (.error (.table e), catalog)
  | .clear => (.ok .cleared, catalog.clear)
  | .problems =>
    match catalog.problems with
    | .ok found => (.ok (.problems found), catalog)
    | .error e => (.error (.pattern e), catalog)
  | .stats => (.ok (.stats catalog.stats), catalog)
  | .definitions => (.ok (.definitions catalog.definitions), catalog)
  | .scan buffer filename category limit =>
    match Scan.scan catalog buffer filename category limit with
    | .ok (findings, catalog) => (.ok (.findings findings), catalog)
    | .error e => (.error (.scan e), catalog)

/-- The replies to requests in turn, and the catalog after all of them. -/
def serveAll (catalog : Catalog) : List Request → List (Except RequestError Reply) × Catalog
  | [] => ([], catalog)
  | request :: rest =>
    let (reply, catalog) := request.serve catalog
    let (replies, catalog) := serveAll catalog rest
    (reply :: replies, catalog)

end CodeAudit.Scan
