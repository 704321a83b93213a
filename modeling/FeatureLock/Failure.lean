import FeatureLock.Instant
import FeatureLock.Json.Token
import FeatureLock.Text.Blank

/-!
# Keys and failures

A feature is addressed by a tenant, a subject and a feature type.  Every failure
of the lock service has a stable code and a wording, and names the key that it
is about, unless an argument was at fault.

## Main Definitions

- `Key`, `Key.validate`: the address of a feature, and what makes it acceptable
- `ErrorCode`: a stable code with its wording
- `Complaint`: what is wrong with an argument
- `Failure`: why an operation failed, with `code`, `key?` and `message`
-/

namespace FeatureLock

/-- The address of a feature; no two features share one. -/
structure Key where
  tenant : Int32
  subject : String
  featureType : String
  deriving DecidableEq

/-- A stable code with its wording. -/
structure ErrorCode where
  code : String
  message : String
  deriving DecidableEq

namespace ErrorCode

/-- A feature could not be added. -/
def insert : ErrorCode := ⟨"FM_001", "error occurred while adding the feature"⟩

/-- A feature could not be looked up, or its row could not be counted. -/
def find : ErrorCode := ⟨"FM_002", "error occurred while retrieving the feature from DB"⟩

/-- A feature could not be replaced. -/
def update : ErrorCode := ⟨"FM_003", "error occurred while updating the feature"⟩

/-- A feature could not be removed. -/
def delete : ErrorCode := ⟨"FM_004", "error occurred while deleting the feature from DB"⟩

/-- An expired lock could not be taken off. -/
def expire : ErrorCode := ⟨"FM_005", "error occurred while releasing an expired feature lock"⟩

/-- A row holds a text that is no list of reasons. -/
def decode : ErrorCode := ⟨"FM_006", "stored feature data could not be decoded"⟩

/-- A list of reasons could not be written as text. -/
def encode : ErrorCode := ⟨"FM_007", "feature data could not be encoded for storage"⟩

/-- There is no feature under the key. -/
def notFound : ErrorCode := ⟨"FM_010", "feature not found"⟩

/-- There is a feature under the key. -/
def alreadyExists : ErrorCode := ⟨"FM_011", "feature already exists"⟩

/-- An argument was refused. -/
def illegalArgument : ErrorCode := ⟨"FM_012", "illegal argument"⟩

/-- The code and its wording in one line. -/
def describe (c : ErrorCode) : String :=
  c.code ++ " : " ++ c.message

end ErrorCode

/-! ### Arguments -/

/-- The texts that an operation checks. -/
inductive Part where
  | subject
  | featureType
  | reasonCode
  deriving DecidableEq

/-- What a checked text is called. -/
def Part.name : Part → String
  | subject => "subject id"
  | featureType => "feature type"
  | reasonCode => "lock reason code"

/-- How many characters a checked text may have. -/
def maxPartLength : Nat := 255

/-- What is wrong with an argument. -/
inductive Complaint where
  | blank (part : Part)
  | tooLong (part : Part)
  | durationTooShort
  | durationOutOfRange (d : Duration)
  | other (text : String)
  deriving DecidableEq

/-- The wording of a complaint. -/
def Complaint.message : Complaint → String
  | blank p => p.name ++ " must not be blank"
  | tooLong p => p.name ++ " exceeds " ++ toString maxPartLength ++ " characters"
  | durationTooShort => "lock duration must be at least one millisecond"
  | durationOutOfRange d => "lock duration " ++ d.describe ++ " is out of range"
  | other text => text

namespace Key

/-- A part of a key must not be blank, and must not be too long, white space included. -/
def checkPart (p : Part) (s : String) : Except Complaint Unit :=
  if Text.trim s = "" then .error (.blank p)
  else if maxPartLength < s.length then .error (.tooLong p)
  else .ok ()

/-- **A key is acceptable when its subject and its feature type are**, the subject first. -/
def validate (k : Key) : Except Complaint Unit := do
  checkPart .subject k.subject
  checkPart .featureType k.featureType

/-- A key in one line. -/
def describe (k : Key) : String :=
  "tenant ID: " ++ toString k.tenant.toInt ++ ", subject ID: " ++ k.subject ++
    ", feature type: " ++ k.featureType

end Key

/-! ### Failures -/

/-- What went wrong in a store. -/
inductive Cause where
  /-- the table is missing -/
  | noTable
  /-- a rule of the table that no two rows share a key -/
  | duplicate
  /-- the store refused the call -/
  | refused
  /-- a stored text is no list of reasons -/
  | undecodable (fault : Json.Fault)
  /-- a stored flag or deadline is none -/
  | unreadable
  /-- anything else, in its own words -/
  | reported (text : String)
  deriving DecidableEq

/-- The wording of a cause. -/
def Cause.message : Cause → String
  | noTable => "no such table"
  | duplicate => "two rows would share a key"
  | refused => "the store refused the call"
  | undecodable _ => "the stored text is no list of reasons"
  | unreadable => "the stored row holds a value of another type"
  | reported text => text

/-- Why an operation failed. -/
inductive Failure where
  | notFound (key : Key)
  | alreadyExists (key : Key)
  | illegalArgument (why : Complaint)
  | server (code : ErrorCode) (key : Key) (cause : Cause)
  deriving DecidableEq

namespace Failure

/-- The stable code of a failure. -/
def code : Failure → ErrorCode
  | notFound _ => .notFound
  | alreadyExists _ => .alreadyExists
  | illegalArgument _ => .illegalArgument
  | server c _ _ => c

/-- The key that the failed operation was about; a bad argument names none. -/
def key? : Failure → Option Key
  | notFound k => some k
  | alreadyExists k => some k
  | illegalArgument _ => none
  | server _ k _ => some k

/-- What went wrong in the store, for a failure of the store. -/
def cause? : Failure → Option Cause
  | server _ _ c => some c
  | _ => none

/-- The feature was not there. -/
def isNotFound : Failure → Bool
  | notFound _ => true
  | _ => false

/-- The store failed. -/
def isServerError : Failure → Bool
  | server .. => true
  | _ => false

/-- **The wording of a failure.**  What went wrong in the store is not part of it. -/
def message : Failure → String
  | notFound k => "feature not found for " ++ k.describe
  | alreadyExists k => "feature already exists for " ++ k.describe
  | illegalArgument why => "caused: " ++ why.message
  | server c k _ => c.describe ++ " (" ++ k.describe ++ ")"

end Failure

end FeatureLock
