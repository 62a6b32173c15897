import DataJuicer.Lib.PyText
import DataJuicer.Lib.Regex

/-! # Texts that may be shown

Thirteen patterns describe what no user may see: paths, credentials, internal ids and names, and
percentages. A text of a signal is redacted, cut to two sentences and bounded; a text with a match
is refused.
-/

namespace DataJuicer.PublicContract

open Regex

/-- What the interpreter's Unicode database says of a character. -/
structure CharData where
  /-- `str.isalnum` -/
  alnum : Char → Bool
  /-- `\d` -/
  decimal : Char → Bool

/-- The code point is in this range. -/
def between (lo hi : ℕ) (c : Char) : Bool := lo.ble c.toNat && c.toNat.ble hi

/-- The lower case under which `re.IGNORECASE` compares the code points of ASCII letters. -/
def fold (c : Char) : ℕ :=
  if between 65 90 c then c.toNat + 32
  else if c.toNat = 0x130 ∨ c.toNat = 0x131 then 105
  else if c.toNat = 0x17F then 115
  else if c.toNat = 0x212A then 107
  else c.toNat

def ignoreCase (a b : Char) : Bool := fold a == fold b

def sameCase (a b : Char) : Bool := a.toNat == b.toNat

/-- One of the characters of the text. -/
def among (s : String) (c : Char) : Bool := s.toList.any (sameCase c)

def space (c : Char) : Bool := PyStr.isSpace c.toNat

/-- `[a-z]` with `re.IGNORECASE` -/
def letter (c : Char) : Bool := Nat.ble 97 (fold c) && (fold c).ble 122

def digit (c : Char) : Bool := between 48 57 c

/-- `[0-9a-f]` with `re.IGNORECASE` -/
def hexDigit (c : Char) : Bool := digit c || (Nat.ble 97 (fold c) && (fold c).ble 102)

/-- `[a-z0-9_]` with `re.IGNORECASE` -/
def nameChar (c : Char) : Bool := letter c || digit c || among "_" c

/-- `[A-Za-z0-9_-]` with `re.IGNORECASE` -/
def idChar (c : Char) : Bool := nameChar c || among "-" c

/-- `[^\s,;，；。！？]` -/
def pathChar (c : Char) : Bool := !(space c || among ",;，；。！？" c)

def word (s : String) : Regex := text ignoreCase s.toList

/-- The text as it stands. -/
def exact (s : String) : Regex := text sameCase s.toList

def spaces : Regex := star (char space)

def words (ss : List String) : Regex := choice (ss.map word)

def oneOf (cs : String) : Regex := char (among cs)

def maybe (cs : String) : Regex := opt (oneOf cs)

def unixPathTail : Regex :=
  let part := plus (char fun c => pathChar c && !among "/" c)
  seq (star (seq part (exact "/"))) part

def windowsCore : Regex :=
  concat [char fun c => between 65 90 c || between 97 122 c, exact ":\\",
    plus (seq (plus (char pathChar)) (maybe "\\"))]

/-- `_UNC_PATH_RE` -/
def uncPath : Regex :=
  concat [exact "\\\\", plus (char fun c => pathChar c && !among "\\" c), exact "\\",
    plus (char pathChar)]

def bearerCore : Regex :=
  let token := char fun c => idChar c || among ".~+/" c
  concat [word "Bearer", plus (char space), times token 6 (star token)]

def secretCore : Regex :=
  choice [
    concat [word "sk-", times (char idChar) 8 (star (char idChar))],
    concat [choice [concat [word "api", maybe "_ -", word "key"],
      concat [word "access", maybe "_ -", word "token"],
      word "password", word "passwd", word "secret", word "credential"],
      spaces, oneOf ":=", spaces, plus (char fun c => !(space c || among ",;" c))]]

/-- `_CN_SECRET_RE` -/
def cnSecret : Regex :=
  concat [choice (["密码", "口令", "密钥", "令牌"].map exact), spaces,
    choice [oneOf ":：=", exact "是", exact "为"], spaces,
    plus (char fun c => !(space c || among ",;，；" c))]

def internalIdCore : Regex :=
  concat [words ["task", "plan", "step", "reply", "session", "agent", "activity", "request",
      "origin", "call", "run", "tool_call", "parent_run"],
    maybe "_ -", word "id", spaces, maybe ":=：", spaces, plus (char idChar)]

def internalRefCore (tail : Regex) : Regex :=
  seq (choice [
    concat [word "nav_plan_", times (char hexDigit) 24 (upTo (char hexDigit) 40)],
    concat [char letter, star (char nameChar), words ["step", "phase"], word "_",
      plus (char idChar)]]) tail

def uuidCore (tail : Regex) : Regex :=
  times (char hexDigit) 8 <| seq (word "-") <| times (char hexDigit) 4 <| seq (word "-") <|
    seq (char (between 49 53)) <| times (char hexDigit) 3 <| seq (word "-") <|
      seq (oneOf "89abAB") <| times (char hexDigit) 3 <| seq (word "-") <|
        times (char hexDigit) 12 tail

def longHexCore (tail : Regex) : Regex :=
  times (char hexDigit) 24 (seq (upTo (char hexDigit) 40) tail)

def toolNameCore (tail : Regex) : Regex :=
  seq (choice [
    seq (char letter) (times (char nameChar) 2 (seq (star (char nameChar)) (word "_tool"))),
    seq (words ["start", "continue", "control"]) (word "_navigation_data_task"),
    concat [word "run_annotation_", words ["tracking", "postprocessing"], word "_workflow"]]) tail

def agentNameCore (tail : Regex) : Regex :=
  seq (choice [word "MainRouter", word "NavigationDataAgent",
    concat [char letter, star (char fun c => letter c || digit c), word "Agent"],
    word "AgentScope"]) tail

variable (db : CharData)

/-- `\w` -/
def isWord (c : Char) : Bool := db.alnum c || among "_" c

/-- `\b` -/
def edge : Regex := boundary (isWord db)

/-- `_UNIX_PATH_RE` -/
def unixPath : Regex :=
  concat [notBehind fun c => isWord db c || among ":" c, exact "/",
    unixPathTail]

/-- `_WINDOWS_PATH_RE` -/
def windowsPath : Regex := seq (edge db) windowsCore

/-- `_BEARER_RE` -/
def bearer : Regex := seq (edge db) bearerCore

/-- `_SECRET_RE` -/
def secret : Regex := seq (edge db) secretCore

/-- `_INTERNAL_ID_RE` -/
def internalId : Regex := seq (edge db) internalIdCore

/-- `_INTERNAL_REF_RE` -/
def internalRef : Regex := seq (edge db) (internalRefCore (edge db))

/-- `_UUID_RE` -/
def uuid : Regex := seq (edge db) (uuidCore (edge db))

/-- `_LONG_HEX_RE` -/
def longHex : Regex := seq (edge db) (longHexCore (edge db))

/-- `_TOOL_NAME_RE` -/
def toolName : Regex := seq (edge db) (toolNameCore (edge db))

/-- `_AGENT_NAME_RE` -/
def agentName : Regex := seq (edge db) (agentNameCore (edge db))

/-- `_PERCENT_RE` -/
def percent : Regex :=
  choice [
    concat [notBehind (isWord db), plus (char db.decimal),
      opt (seq (exact ".") (plus (char db.decimal))), spaces,
      choice [exact "%", seq (word "percent") (edge db)]],
    seq (exact "百分之") (plus (char fun c =>
      among "零〇一二三四五六七八九十百两." c || db.decimal c)),
    exact "%"]

def containsUnsafePublicText (s : String) : Bool :=
  [unixPath db, windowsPath db, uncPath, bearer db, secret db, cnSecret, internalId db,
    internalRef db, toolName db, agentName db, uuid db, longHex db, percent db].any
    fun pattern => pattern.search s.toList

def strip (s : List Char) : List Char := (s.dropWhile space).rdropWhile space

/-- `re.sub(r"\s+", " ", text)` -/
def collapseSpaces (s : List Char) : List Char := (plus (char space)).sub (fun _ => [' ']) s

def redactions : List (Regex × String) :=
  [(unixPath db, "[已隐藏路径]"), (windowsPath db, "[已隐藏路径]"), (uncPath, "[已隐藏路径]"),
    (bearer db, "[已隐藏凭据]"), (secret db, "[已隐藏凭据]"), (cnSecret, "[已隐藏凭据]"),
    (internalId db, "[已隐藏内部标识]"), (internalRef db, "[已隐藏内部标识]"),
    (uuid db, "[已隐藏内部标识]"), (longHex db, "[已隐藏内部标识]"),
    (toolName db, "[已隐藏内部操作]"), (agentName db, "DataPilot"), (percent db, "")]

def spacedMark : Regex := seq (plus (char space)) (oneOf ",.;，。；！？!?")

def redactText (s : List Char) : List Char :=
  let value := strip (collapseSpaces s)
  let value := (redactions db).foldl (fun v r => r.1.sub (fun _ => r.2.toList) v) value
  let value := collapseSpaces value
  let value := spacedMark.sub (fun m => m.drop (m.length - 1)) value
  (value.dropWhile (among " ,;，；")).rdropWhile (among " ,;，；")

/-- `_SENTENCE_RE` -/
def sentence : Regex :=
  seq (star (char fun c => !among "。！？.!?" c)) (choice [plus (oneOf "。！？.!?"), endOfText])

def progressTargetChars : ℕ := 120

def publicTextHardLimit : ℕ := 240

/-- Two sentences when they fit the target together, else the first. -/
def compactSentences : List (List Char) → List Char
  | [] => []
  | [a] => a
  | a :: b :: _ => if progressTargetChars < a.length + 1 + b.length then a else a ++ ' ' :: b

def sanitizeProgressText (s : Option String) : String :=
  let sentences := (sentence.findAll (redactText db (s.getD "").toList)).map strip
  let value := compactSentences (sentences.filter fun t => t ≠ [])
  String.ofList <|
    if publicTextHardLimit < value.length then
      (value.take (publicTextHardLimit - 1)).rdropWhile space ++ ['…']
    else value

/-- A character at which `str.splitlines` ends a line. -/
def lineBreak (c : Char) : Bool :=
  between 10 13 c || between 28 30 c || among "\u0085\u2028\u2029" c

/-- `str.splitlines`, from the line that has been begun on. -/
def splitLines : List Char → List Char → List (List Char)
  | [], [] => []
  | line, [] => [line]
  | line, '\r' :: '\n' :: rest => line :: splitLines [] rest
  | line, c :: rest =>
    if lineBreak c then line :: splitLines [] rest else splitLines (line ++ [c]) rest

def sanitizeFinalText (s : String) : String :=
  let lines := (splitLines [] s.toList).map (redactText db)
  let safe := lines.filter fun t => t ≠ [] && !containsUnsafePublicText db (String.ofList t)
  String.ofList (strip (['\n'].intercalate safe))

end DataJuicer.PublicContract
