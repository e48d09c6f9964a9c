import QfwSlurm.Gateway.SlurmVerifier
import QfwSlurm.Python.Text

/-!
# Jobs of the inspection tools

`qfw-squeue` reads the jobs of `squeue --json`.  `_job` takes what it shows from a record, with `str`
for whatever stands where a text is expected, and `canonical_job_id` is the id under which the
components of a heterogeneous job are one.
-/

namespace QfwSlurm

/-! ### Values as texts -/

namespace SlurmValue

mutual

/-- `repr(value)` -/
def repr : SlurmValue → String
  | null => "None"
  | bool value => if value then "True" else "False"
  | int value => toString value
  | float text => text
  | str value => reprText value
  | arr items => "[" ++ String.intercalate ", " (reprItems items) ++ "]"
  | obj fields => "\x7b" ++ String.intercalate ", " (reprFields fields) ++ "\x7d"

/-- `repr` of the items of a list. -/
def reprItems : List SlurmValue → List String
  | [] => []
  | item :: items => item.repr :: reprItems items

/-- `repr` of the items of a mapping. -/
def reprFields : List (String × SlurmValue) → List String
  | [] => []
  | (key, value) :: fields => (reprText key ++ ": " ++ value.repr) :: reprFields fields

end

/-- `str(value)` -/
def text : SlurmValue → String
  | str value => value
  | value => value.repr

/-- `bool(value)` -/
def truthy : SlurmValue → Bool
  | null => false
  | bool value => value
  | int value => value ≠ 0
  | float text => text ≠ "0.0" && text ≠ "-0.0"
  | str value => value ≠ ""
  | arr items => !items.isEmpty
  | obj fields => !fields.isEmpty

/-- `left or right` -/
def orElse (left right : SlurmValue) : SlurmValue := if left.truthy then left else right

/-- `row.get(key)` of a mapping. -/
def field (fields : List (String × SlurmValue)) (key : String) : SlurmValue :=
  (fields.lookup key).getD null

end SlurmValue

/-! ### Jobs -/

/-- `SlurmJob` -/
structure SlurmJob where
  jobId : String
  user : String
  state : String
  nodes : List String := []
  clusterName : String := ""
  heterogeneousJobId : String := ""
  heterogeneousJobOffset : Option ℤ := none
  deriving DecidableEq

/-- What `_job` raises: `SlurmCommandError`, or the `OverflowError` of `int`. -/
inductive InspectionFailure where
  | command (message : String)
  | overflow
  deriving DecidableEq

/-- `_identifier` -/
def identifier (value : SlurmValue) : String :=
  let selected := match value with
    | .obj fields => SlurmValue.field fields "number"
    | value => value
  match selected with
  | .null => ""
  | selected => selected.text

/-- `_optional_identifier` -/
def optionalIdentifier (value : SlurmValue) : String :=
  if identifier value ∈ ["", "0"] then "" else identifier value

/-- `_texts` -/
def texts : SlurmValue → List String
  | .null => []
  | .str value => (value.splitOn ",").filter (· ≠ "")
  | .arr items => (items.map SlurmValue.text).filter (· ≠ "")
  | value => [value.text]

/-- `_first_text` -/
def firstTextOf (value : SlurmValue) (default : String) : String :=
  ((texts value).head?).getD default

section Jobs

/-- What the tools take from the Python runtime: the decimal digits beyond ASCII, and `int` of a
float by its text, which raises `OverflowError` on an infinity (`none`) and `ValueError` on `nan`
(`some none`). -/
structure Numerals where
  decimal : Char → Option ℕ
  truncated : String → Option (Option ℤ)

variable (numerals : Numerals)

/-- The offset of a component: `None` where `int` raises `TypeError` or `ValueError`. -/
def componentOffset (value : SlurmValue) : Except InspectionFailure (Option ℤ) :=
  let selected := match value with
    | .obj fields => SlurmValue.field fields "number"
    | value => value
  match selected with
  | .bool value => .ok (some (if value then 1 else 0))
  | .int value => .ok (some value)
  | .float text =>
    match numerals.truncated text with
    | none => .error .overflow
    | some value => .ok value
  | .str value => .ok (Python.intOfText numerals.decimal value.toList)
  | _ => .ok none

/-- `_job` -/
def inspectedJob (row : SlurmValue) (defaultCluster : String) :
    Except InspectionFailure SlurmJob := do
  match row with
  | .obj fields =>
    let jobId := identifier (SlurmValue.field fields "job_id")
    if jobId = "" then throw (.command "squeue job lacks job_id")
    let offset ← componentOffset numerals
      ((fields.lookup "het_job_offset").getD (SlurmValue.field fields "heterogeneous_job_offset"))
    return {
      jobId := jobId
      user := (((SlurmValue.field fields "user_name").orElse
        (SlurmValue.field fields "user")).orElse (.str "")).text
      state := firstTextOf (SlurmValue.field fields "job_state") "UNKNOWN"
      nodes := texts (SlurmValue.field fields "nodes")
      clusterName := ((SlurmValue.field fields "cluster").orElse (.str defaultCluster)).text
      heterogeneousJobId := optionalIdentifier ((SlurmValue.field fields "het_job_id").orElse
        (SlurmValue.field fields "heterogeneous_job_id"))
      heterogeneousJobOffset := offset }
  | _ => throw (.command "squeue JSON contains a malformed job")

end Jobs

/-- `canonical_job_id` of `squeue.py` -/
def SlurmJob.canonicalJobId (job : SlurmJob) : String :=
  if job.heterogeneousJobId ≠ "" then job.heterogeneousJobId else job.jobId

end QfwSlurm
