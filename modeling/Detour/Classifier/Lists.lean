import Detour.Classifier.Record
import Detour.DomainList.Storage
import Detour.Log.Logger

/-!
# Loading and persisting the lists

Loading merges seeds and files into the sets: learned names that the administrator has listed are
dropped, learned-blocked names go before learned-direct ones, and always-blocked names before
always-direct ones. Persisting writes the learned lists that were changed and are updated at all; a
list that could not be written stays marked as changed.

## Main definitions

* `Classifier.merge` — the sets after loading, from what the files hold.
* `Classifier.load`, `Classifier.persist` — with a disk.
-/
namespace Detour.Classifier

open DomainList Files Log Text

/-- What loading or persisting leads to. -/
structure Listed (α : Type) where
  result : Except DomainList.Fault α
  classifier : Classifier
  disk : Disk
  messages : List Message := []

def errorMessage (message : Text) (f : DomainList.Fault) (path : Path) : Message :=
  Logger.failureMessage component message f.toFailure (some path.text)

/-! ## Loading -/

/-- Drops names from both learned lists; a list that lost one is marked. -/
def dropLearned (c : Classifier) (names : DomainSet) : Classifier :=
  let (fromBlocked, blocked) := c.blocked.removeAll names.names
  let (fromDirect, direct) := c.direct.removeAll names.names
  { c with
    blocked, direct
    blockedChanged := c.blockedChanged || !fromBlocked.isEmpty
    directChanged := c.directChanged || !fromDirect.isEmpty }

/-- What is learned-blocked is not learned-direct. -/
def separate (c : Classifier) : Classifier :=
  let (removed, direct) := c.direct.removeAll c.blocked.names
  { c with direct, directChanged := c.directChanged || !removed.isEmpty }

/-- The names in both sets, in ascending order. -/
def conflicts (alwaysBlocked alwaysDirect : DomainSet) : List Text :=
  sorted (alwaysBlocked.names.filter (· ∈ alwaysDirect))

def conflictMessage (name : Text) : Message where
  level := .warn
  component
  message := name ++ " in both always blocked and direct domain lists, taken as blocked"
  data := .object [("domain", .string name)]

def loadedMessage (c : Classifier) : Message where
  level := .info
  component
  message := "Domain lists loaded"
  data := .object [("blocked", .ofInt c.blocked.size), ("direct", .ofInt c.direct.size),
    ("always_blocked", .ofInt c.alwaysBlocked.size), ("always_direct", .ofInt c.alwaysDirect.size)]

/-- Puts names into the learned lists. -/
def learnAll (c : Classifier) (blocked direct : List Text) : Classifier :=
  { c with blocked := c.blocked.insertAll blocked, direct := c.direct.insertAll direct }

/-- Settles the sets, the learned names being there and the others coming from the files. -/
def merge (c : Classifier) (alwaysBlocked alwaysDirect : List Text) : Classifier :=
  let alwaysBlocked := DomainSet.ofList alwaysBlocked
  let alwaysDirect := DomainSet.ofList alwaysDirect
  let c := ((c.dropLearned alwaysDirect).dropLearned alwaysBlocked).separate
  { c with alwaysBlocked, alwaysDirect := alwaysDirect.without alwaysBlocked.names }

def mergeMessages (alwaysBlocked alwaysDirect : List Text) : List Message :=
  (conflicts (.ofList alwaysBlocked) (.ofList alwaysDirect)).map conflictMessage

/-- Reads a list; one that cannot be read is logged and counts as empty. -/
def readList (c : Classifier) (kind : Kind) (d : Disk) :
    Except DomainList.Fault (List Text) × Disk × List Message :=
  let path := c.locations.pathFor kind
  match DomainList.load path d with
  | (.ok names, d) => (.ok names, d, [])
  | (.error f, d) =>
    if f.isReported then
      (.ok [], d, [errorMessage ("Error loading " ++ kind.name ++ " domain list") f path])
    else (.error f, d, [])

def load (c : Classifier) (seedBlocked seedDirect : List Text) (d : Disk) : Listed Unit :=
  let c := c.learnAll seedBlocked seedDirect
  match c.readList .blocked d with
  | (.error f, d, m) => ⟨.error f, c, d, m⟩
  | (.ok blocked, d, m₁) =>
    let c := c.learnAll blocked []
    match c.readList .direct d with
    | (.error f, d, m) => ⟨.error f, c, d, m₁ ++ m⟩
    | (.ok direct, d, m₂) =>
      let c := c.learnAll [] direct
      match c.readList .alwaysBlocked d with
      | (.error f, d, m) => ⟨.error f, c, d, m₁ ++ m₂ ++ m⟩
      | (.ok alwaysBlocked, d, m₃) =>
        match c.readList .alwaysDirect d with
        | (.error f, d, m) => ⟨.error f, c, d, m₁ ++ m₂ ++ m₃ ++ m⟩
        | (.ok alwaysDirect, d, m₄) =>
          let c := c.merge alwaysBlocked alwaysDirect
          ⟨.ok (), c, d, m₁ ++ m₂ ++ m₃ ++ m₄ ++ mergeMessages alwaysBlocked alwaysDirect ++
            [c.loadedMessage]⟩

/-! ## Persisting -/

/-- The learned lists. -/
inductive Learned
  | blocked
  | direct
  deriving DecidableEq, Repr

def Learned.kind : Learned → Kind
  | .blocked => .blocked
  | .direct => .direct

def learned (c : Classifier) : Learned → DomainSet
  | .blocked => c.blocked
  | .direct => c.direct

def isChanged (c : Classifier) : Learned → Bool
  | .blocked => c.blockedChanged
  | .direct => c.directChanged

def isUpdated (c : Classifier) : Learned → Bool
  | .blocked => c.settings.updateBlocked
  | .direct => c.settings.updateDirect

def mark (c : Classifier) (changed : Bool) : Learned → Classifier
  | .blocked => { c with blockedChanged := changed }
  | .direct => { c with directChanged := changed }

/-- Stores a list if it was changed, and tells whether it did. The mark is taken away before the
list is written and is put back if that is reported to have failed. -/
def storeList (c : Classifier) (l : Learned) (d : Disk) : Listed Bool :=
  if !c.isChanged l then ⟨.ok false, c, d, []⟩
  else
    let path := c.locations.pathFor l.kind
    let c := c.mark false l
    match DomainList.store path (c.learned l).names d with
    | (.ok (), d) =>
      ⟨.ok true, c, d, [{
        level := .debug
        component
        message := l.kind.name ++ " domain list stored"
        data := .object [("file_path", .string path.text)] }]⟩
    | (.error f, d) =>
      if f.isReported then
        ⟨.ok false, c.mark true l, d,
          [errorMessage ("Error storing " ++ l.kind.name ++ " domain list") f path]⟩
      else ⟨.error f, c, d, []⟩

/-- Stores a list if it is updated at all, and adds it to those that were written. -/
def persistList (c : Classifier) (l : Learned) (written : List Kind) (d : Disk) :
    Listed (List Kind) :=
  if !c.isUpdated l then ⟨.ok written, c, d, []⟩
  else match c.storeList l d with
    | ⟨.error f, c, d, m⟩ => ⟨.error f, c, d, m⟩
    | ⟨.ok stored, c, d, m⟩ => ⟨.ok (if stored then written ++ [l.kind] else written), c, d, m⟩

/-- Stores the learned lists that need it, and lists those that were written. -/
def persist (c : Classifier) (d : Disk) : Listed (List Kind) :=
  match c.persistList .blocked [] d with
  | ⟨.error f, c, d, m⟩ => ⟨.error f, c, d, m⟩
  | ⟨.ok written, c, d, m₁⟩ =>
    match c.persistList .direct written d with
    | ⟨r, c, d, m₂⟩ => ⟨r, c, d, m₁ ++ m₂⟩

end Detour.Classifier
