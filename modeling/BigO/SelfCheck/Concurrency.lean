import BigO.Service.Endpoint
import BigO.Json.Equality
import BigO.Number.Fixed

/-! The concurrency check: a number of requests to the analysis endpoint at once, each with one of a
few samples in turn, and a printed report. It tells how each request fared and counts the verdicts
that differ from the first one for the same sample. -/

namespace BigO.SelfCheck.Concurrency

/-- A source text that is sent. -/
structure Sample where
  language : Text
  code : Text
deriving DecidableEq

/-- The samples. -/
def samples : List Sample := [
  { language := text "python", code := text "for i in range(n): print(i)" },
  { language := text "python"
    code := Text.join (text "\n") ([
      "def bubble_sort(arr):",
      "    for i in range(len(arr)):",
      "        for j in range(len(arr)-i-1):",
      "            if arr[j] > arr[j+1]:",
      "                arr[j], arr[j+1] = arr[j+1], arr[j]"].map text) },
  { language := text "python"
    code := Text.join (text "\n") ([
      "def binary_search(arr, target):",
      "    left, right = 0, len(arr)-1",
      "    while left <= right:",
      "        mid = (left+right)//2",
      "        if arr[mid] == target:",
      "            return mid",
      "        elif arr[mid] < target:",
      "            left = mid+1",
      "        else:",
      "            right = mid-1",
      "    return -1"].map text) },
  { language := text "python", code := text "result = [x*2 for x in range(n)]" },
  { language := text "javascript"
    code := text "function fact(n)\x7b if(n<=1) return 1; return n*fact(n-1); \x7d" }]

/-- The sample of the request with this index. -/
def sampleAt (index : Nat) : Sample :=
  samples.get ⟨index % samples.length, Nat.mod_lt _ (by decide)⟩

/-- What comes back for a request: the endpoint's own answer, some other response, or a fault. -/
inductive Reply where
  | endpoint
  | response (r : CompletionResponse)
  | fault (fault : TransportFault) (message : Text)

/-- The wording of why bytes give no value. -/
def byteErrorMessage (bytes : List UInt8) : Json.ByteError → Text
  | .undecodable what => what.message
  | .unreadable cause => cause.message ((Json.decode bytes).toOption.getD [])

/-- A value that only tells of an error. -/
def errorValue (message : Text) : Json := .obj [(text "error", .str message)]

/-- The value in a body, or one that tells why there is none. -/
def valueOf (bytes : List UInt8) : Json :=
  match Json.readBytes bytes with
  | .ok value => value
  | .error e => errorValue (byteErrorMessage bytes e)

/-- The value that comes back for a sample. -/
def Reply.value (s : Sample) : Reply → Json
  | .endpoint =>
    valueOf (Text.toUtf8 (Service.analysis { code := s.code, language := s.language }).body)
  | .response r =>
    match r.received with
    | .ok r => valueOf r.body
    | .error failure => errorValue failure.message
  | .fault f message => errorValue (f.wording message)

/-- A value that counts as yes: neither nothing nor false, zero or empty. -/
def isTruthy : Json → Bool
  | .null => false
  | .bool b => b
  | .num (.int n) => n ≠ 0
  | .num (.float x) => !(Number.float x).same (.int 0)
  | .str t => !t.isEmpty
  | .arr items => !items.isEmpty
  | .obj members => !members.isEmpty

/-- How a request fared. -/
inductive Finding where
  | success (verdict : List (Text × Json))
  | failed (reason : Json)
  | refused

/-- Why the check breaks off: what came back, or the verdict in it, is no object. -/
inductive Mishap where
  | notIterable (kind : Text)
  | noMembers (kind : Text)
deriving DecidableEq

/-- The name of the kind of a mishap. -/
def Mishap.name : Mishap → Text
  | .notIterable _ => text "TypeError"
  | .noMembers _ => text "AttributeError"

/-- The wording of a mishap. -/
def Mishap.message : Mishap → Text
  | .notIterable kind => text "argument of type '" ++ kind ++ text "' is not iterable"
  | .noMembers kind => text "'" ++ kind ++ text "' object has no attribute 'get'"

/-- How a request fared by the value that came back. -/
def Finding.ofJson : Json → Except Mishap Finding
  | .obj members =>
    match Json.member? members (text "error") with
    | some reason => .ok (.failed reason)
    | none =>
      if (Json.member? members (text "success")).any isTruthy then
        match (Json.member? members (text "result")).getD (.obj []) with
        | .obj verdict => .ok (.success verdict)
        | other => .error (.noMembers other.kind)
      else .ok .refused
  | .arr items => .error (.noMembers (Json.arr items).kind)
  | .str t => .error (.noMembers (Json.str t).kind)
  | other => .error (.notIterable other.kind)

/-- The findings in order, up to the first mishap. -/
def findingsOf : List Json → List Finding × Option Mishap
  | [] => ([], none)
  | value :: values =>
    match Finding.ofJson value with
    | .error mishap => ([], some mishap)
    | .ok finding =>
      let (findings, mishap) := findingsOf values
      (finding :: findings, mishap)

/-- The verdicts of the successful requests with their samples; `index` is that of the first
finding. -/
def verdictsFrom (index : Nat) : List Finding → List (Sample × List (Text × Json))
  | [] => []
  | .success verdict :: rest => (sampleAt index, verdict) :: verdictsFrom (index + 1) rest
  | _ :: rest => verdictsFrom (index + 1) rest

/-- How many verdicts differ from the first one for the same sample; `known` has the first verdicts
so far. -/
def inconsistent (known : List (Sample × List (Text × Json))) :
    List (Sample × List (Text × Json)) → Nat
  | [] => 0
  | (sample, verdict) :: rest =>
    match known.find? (·.1 = sample) with
    | some (_, first) =>
      (if (Json.obj first).same (.obj verdict) then 0 else 1) + inconsistent known rest
    | none => inconsistent ((sample, verdict) :: known) rest

/-- The request was successful. -/
def Finding.isSuccess : Finding → Bool
  | .success _ => true
  | _ => false

/-- How long each request and all of them together took, in ticks of a clock. A clock that is set back
makes a request take less than no time. -/
structure Timing where
  each : Nat → Int
  total : Nat
  total_pos : 0 < total
  perSecond : Nat := 1000
  perSecond_pos : 0 < perSecond := by decide

/-- A text with blanks behind it up to a width. -/
def padded (width : Nat) (t : Text) : Text :=
  t ++ List.replicate (width - t.length) (CodePoint.ofChar ' ')

/-- Ticks as seconds with three decimal places. -/
def Timing.seconds (timing : Timing) (ticks : Int) : Text := fixedPlacesInt 3 ticks timing.perSecond

/-- How much of a reason is printed. -/
def reasonLimit : Nat := 50

/-- A member of a verdict as it is printed. -/
def verdictPart (verdict : List (Text × Json)) (name : String) : Text :=
  ((Json.member? verdict (text name)).map Json.display).getD (text "N/A")

/-- The word for a finding. -/
def Finding.status : Finding → Text
  | .success _ => text "SUCCESS"
  | .failed _ => text "FAILED"
  | .refused => text "ERROR"

/-- What is printed of a finding. -/
def Finding.detail : Finding → Text
  | .success verdict =>
    text "Time: " ++ verdictPart verdict "time" ++ text ", Space: " ++ verdictPart verdict "space"
  | .failed reason => reason.display.take reasonLimit
  | .refused => text "Unknown"

/-- The line about a request. -/
def row (timing : Timing) (index : Nat) (finding : Finding) : Text :=
  padded 8 (Text.ofNat (index + 1)) ++ text " " ++ padded 12 (timing.seconds (timing.each index)) ++
    text " " ++ padded 12 finding.status ++ text " " ++ finding.detail

/-- A line of eighty marks. -/
def rule (mark : Char) : Text := List.replicate 80 (CodePoint.ofChar mark)

/-- A heading between two rules. -/
def heading (words : Text) : List Text := [rule '=', words, rule '=']

/-- What is printed before the lines about the requests. -/
def opening (requests : Int) : List Text :=
  heading (text "CONCURRENT REQUEST TEST - " ++ Text.ofInt requests ++ text " requests") ++
    [[], text "Starting " ++ Text.ofInt requests ++ text " concurrent requests...", [],
      text "INDIVIDUAL REQUEST RESULTS:", rule '-',
      padded 8 (text "Req #") ++ text " " ++ padded 12 (text "Time (s)") ++ text " " ++
        padded 12 (text "Status") ++ text " Result",
      rule '-']

/-- How many requests were made in a second, with two decimal places. -/
def Timing.rate (timing : Timing) (requests : Int) : Text :=
  fixedPlacesInt 2 (requests * timing.perSecond) timing.total

/-- What is printed about the times of the successful requests. -/
def Timing.timeLines (timing : Timing) (times : List Int) : List Text :=
  let sorted := times.mergeSort (· ≤ ·)
  let average := fixedPlacesInt 3 (times.foldl (· + ·) 0) (times.length * timing.perSecond)
  match sorted.head?, sorted.getLast? with
  | some least, some greatest =>
    [text "Response Time Statistics:", text "  Minimum:   " ++ timing.seconds least ++ text "s",
      text "  Maximum:   " ++ timing.seconds greatest ++ text "s",
      text "  Average:   " ++ average ++ text "s",
      text "  Median:    " ++ timing.seconds (sorted.getD (times.length / 2) 0) ++ text "s"]
  | _, _ => []

/-- What the check counts. -/
structure Counts where
  successful : Nat
  failed : Nat
  inconsistent : Nat
deriving DecidableEq

/-- The counts of some findings. -/
def countsOf (findings : List Finding) : Counts :=
  { successful := findings.countP Finding.isSuccess
    failed := findings.countP (!·.isSuccess)
    inconsistent := Concurrency.inconsistent [] (verdictsFrom 0 findings) }

/-- What is printed of the counts. -/
def tally (requests : Int) (counts : Counts) : List Text :=
  heading (text "STATISTICS") ++
    [text "Total requests:        " ++ Text.ofInt requests,
      text "Successful:            " ++ Text.ofNat counts.successful,
      text "Failed:                " ++ Text.ofNat counts.failed,
      text "Inconsistent verdicts: " ++ Text.ofNat counts.inconsistent]

/-- What is printed of the times. -/
def Timing.lines (timing : Timing) (requests : Int) (findings : List Finding) : List Text :=
  let times := (findings.zipIdx.filter (·.1.isSuccess)).map fun f => timing.each f.2
  [text "Total time:            " ++ timing.seconds timing.total ++ text "s",
    text "Requests per second:   " ++ timing.rate requests, []] ++ timing.timeLines times

/-- What is printed behind the lines about the requests. -/
def closing (requests : Int) (timing : Timing) (findings : List Finding) : List Text :=
  [[]] ++ tally requests (countsOf findings) ++ timing.lines requests findings ++ [rule '=']

/-- Lines as they are printed, each with a line break behind it. -/
def printed (lines : List Text) : Text := lines.flatMap (· ++ text "\n")

/-- A run of the check: what it prints, and the mishap that broke it off if there was one. -/
structure Run where
  output : Text
  mishap : Option Mishap

/-- Runs the check with a number of requests, of which one below zero counts as none. -/
def run (requests : Int) (replyTo : Nat → Reply) (timing : Timing) : Run :=
  let values := (List.range requests.toNat).map fun i => (replyTo i).value (sampleAt i)
  let (findings, mishap) := findingsOf values
  let rows := findings.zipIdx.map fun f => row timing f.2 f.1
  let lines := opening requests ++ rows ++
    (if mishap.isSome then [] else closing requests timing findings)
  { output := printed lines, mishap }

end BigO.SelfCheck.Concurrency
