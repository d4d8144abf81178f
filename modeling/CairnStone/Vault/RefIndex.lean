import CairnStone.JavaScript.Conversions
import CairnStone.JavaScript.TextMethods

/-! What a stone's content is indexed by: chunks of 80 lines with their keywords, previews and flags,
the receipt of the index, and the layers of detail of the stone.
-/

namespace CairnStone.Vault

open JavaScript List Nat

/-- The expressions of `FLAG_PATTERNS`. -/
inductive FlagPattern where
  | emptyCatch
  | varUsage
  | consoleDebug
  | debuggerStatement
  | todoComment
  | hardcodedSecret
  deriving DecidableEq

/-- The built-in functions that the index is made with. -/
structure Builtins where
  sha256 : Text → Text
  stringOf : Value → Text
  toLowerCase : Text → Text
  localeLe : Text → Text → Bool
  matchCount : FlagPattern → Text → Nat
  ratioOf : Nat → Nat → Number

def Builtins.string (lib : Builtins) : Value → Text
  | .string s => s
  | other => lib.stringOf other

def DEFAULT_LINES_PER_REF : Nat := 80

/-- `text.split(/\r?\n/)` -/
def splitLines (s : Text) : List Text :=
  let pieces := splitAtUnit 0x0A s
  pieces.dropLast.map (fun piece => if piece.getLast? = some 0x0D then piece.dropLast else piece)
    ++ pieces.getLast?.toList

/-- `lines.join("\n")` -/
def joinLines (lines : List Text) : Text :=
  [0x0A].intercalate lines

/-- `text.replace(/\s+/g, " ")`; `blank` tells whether the unit before was white space. -/
def collapseFrom (blank : Bool) : Text → Text
  | [] => []
  | u :: rest =>
    if isWhiteSpace u then
      if blank then collapseFrom true rest else 0x20 :: collapseFrom true rest
    else u :: collapseFrom false rest

/-- `text.replace(/\s+/g, " ").trim()` -/
def normalizeBlanks (s : Text) : Text :=
  trim (collapseFrom false s)

def preview (s : Text) : Text :=
  (normalizeBlanks s).take 260

/-- The entries of a `Map` after `map.set(key, …)`. -/
def alterEntry {β : Type} (key : Text) (start : β) (next : β → β) (entries : List (Text × β))
    : List (Text × β) :=
  if entries.any (·.1 == key) then
    entries.map (fun entry => if entry.1 == key then (key, next entry.2) else entry)
  else entries ++ [(key, start)]

def STOP_WORDS : List Text :=
  ["the", "and", "for", "with", "that", "this", "from", "are", "was", "were", "have", "has", "not",
    "you", "your", "but", "can", "will", "all", "into", "our", "out", "use", "using", "true", "false",
    "null"].map text

/-- `[a-z0-9_]` -/
def isTermUnit (u : CodeUnit) : Bool :=
  isLower u || isDigit u || u == 0x5F

/-- The matches of `/[a-z0-9_]{3,}/g`. -/
def terms (s : Text) : List Text :=
  (s.splitOnP (fun u => !isTermUnit u)).filter (fun run => 3 ≤ run.length)

variable (lib : Builtins)

def extractKeywords (s : Text) (limit : Nat) : List Text :=
  let counts :=
    ((terms (lib.toLowerCase s)).filter (· ∉ STOP_WORDS)).foldl
      (fun counts term => alterEntry term 1 (· + 1) counts) []
  let sorted :=
    counts.insertionSort (fun a b => b.2 < a.2 || (a.2 == b.2 && lib.localeLe a.1 b.1))
  (sorted.take limit).map (·.1)

def FlagPattern.type : FlagPattern → Text
  | .emptyCatch => text "empty_catch"
  | .varUsage => text "var_usage"
  | .consoleDebug => text "console_debug"
  | .debuggerStatement => text "debugger_statement"
  | .todoComment => text "todo_comment"
  | .hardcodedSecret => text "hardcoded_secret"

def FLAG_PATTERNS : List FlagPattern :=
  [.emptyCatch, .varUsage, .consoleDebug, .debuggerStatement, .todoComment, .hardcodedSecret]

structure Flag where
  type : Text
  count : Nat
  others : Option (List Text)
  deriving DecidableEq

def detectFlags (s : Text) : List Flag :=
  let matched :=
    FLAG_PATTERNS.filterMap (fun pattern =>
      let found := lib.matchCount pattern s
      if found = 0 then none else some ⟨pattern.type, found, none⟩)
  let longLines := ((splitLines s).filter (fun line => 300 < line.length)).length
  matched ++ (if longLines = 0 then [] else [⟨text "long_line", longLines, none⟩])

structure Ref where
  (refId stoneHash : Text)
  path : Value
  (lineStart lineEnd : Nat)
  keywords : List Text
  (preview rawKey : Text)
  flags : List Flag

def chunksFrom : (fuel before : Nat) → List Text → List (Nat × List Text)
  | 0, _, _ => []
  | _, _, [] => []
  | fuel + 1, before, lines =>
    (before, lines.take DEFAULT_LINES_PER_REF)
      :: chunksFrom fuel (before + DEFAULT_LINES_PER_REF) (lines.drop DEFAULT_LINES_PER_REF)

def chunksOf (lines : List Text) : List (Nat × List Text) :=
  chunksFrom lines.length 0 lines

def chunkRef (stoneHash : Text) (path : Value) (rawKey : Text) (chunk : Nat × List Text) : Ref :=
  let content := joinLines chunk.2
  let chunkHash :=
    lib.sha256
      (stoneHash ++ text ":" ++ lib.string path ++ text ":" ++ digitText (chunk.1 + 1) ++ text ":"
        ++ content)
  { refId := text "fsl:" ++ chunkHash.take 16
    stoneHash, path
    lineStart := chunk.1 + 1
    lineEnd := chunk.1 + chunk.2.length
    keywords := extractKeywords lib content 12
    preview := preview content
    rawKey
    flags := detectFlags lib content }

def duplicateGroups (chunks : List (Text × Text)) : List (Text × List Text) :=
  (chunks.filter (fun chunk => 40 < chunk.1.length)).foldl
    (fun groups chunk => alterEntry chunk.1 [chunk.2] (· ++ [chunk.2]) groups) []

def markGroup (refs : List Ref) (ids : List Text) : List Ref :=
  if ids.length ≤ 1 then refs
  else
    refs.map (fun ref =>
      if ref.refId ∈ ids then
        { ref with
          flags :=
            ref.flags
              ++ [⟨text "duplicate_chunk", ids.length - 1, some (ids.filter (· != ref.refId))⟩] }
      else ref)

def buildRefs (stoneHash : Text) (path : Value) (rawKey content : Text) : List Ref :=
  let chunks := chunksOf (splitLines content)
  let refs := chunks.map (chunkRef lib stoneHash path rawKey)
  let groups :=
    duplicateGroups
      (chunks.map (fun chunk =>
        (normalizeBlanks (joinLines chunk.2), (chunkRef lib stoneHash path rawKey chunk).refId)))
  (groups.map (·.2)).foldl markGroup refs

theorem mod_fits (n : Nat) : n % 2 ^ 53 < 2 ^ 53 :=
  mod_lt n (by norm_num)

def count (n : Nat) : Value :=
  .number (.ofNat (n % 2 ^ 53) (mod_fits n))

def texts (list : List Text) : Value :=
  .array (list.map (fun s => some (.string s)))

def Flag.toValue (flag : Flag) : Value :=
  .literal
    ([(text "type", .string flag.type), (text "count", Vault.count flag.count)]
      ++ (flag.others.map (fun others => (text "with", texts others))).toList)

def Ref.toValue (ref : Ref) : Value :=
  .literal
    [(text "ref_id", .string ref.refId), (text "stone_hash", .string ref.stoneHash),
      (text "path", ref.path), (text "line_start", count ref.lineStart),
      (text "line_end", count ref.lineEnd), (text "keywords", texts ref.keywords),
      (text "preview", .string ref.preview), (text "raw_key", .string ref.rawKey),
      (text "flags", .array (ref.flags.map (fun flag => some flag.toValue)))]

def refsValue (refs : List Ref) : Value :=
  .array (refs.map (fun ref => some ref.toValue))

/-- No chunk begins before the lines that are cut. Witness: induction on the fuel. -/
theorem le_of_mem_chunksFrom {fuel before : Nat} {lines : List Text} {chunk : Nat × List Text}
    (mem : chunk ∈ chunksFrom fuel before lines)
    : before ≤ chunk.1 := by
  induction fuel generalizing before lines with
  | zero => cases mem
  | succ fuel ih =>
    cases lines with
    | nil => cases mem
    | cons line rest =>
      rcases mem_cons.mp mem with rfl | later
      · exact le_refl _
      · exact le_trans (le_add_right _ _) (ih later)

/-- Every line lies in exactly one chunk. Witness: induction on the fuel; the first chunk holds the
first 80 lines and no later chunk begins before the line after them.
-/
theorem existsUnique_chunk {fuel before line : Nat} {lines : List Text} (enough : lines.length ≤ fuel)
    (low : before < line) (high : line ≤ before + lines.length)
    : ∃! chunk, chunk ∈ chunksFrom fuel before lines ∧ chunk.1 < line
        ∧ line ≤ chunk.1 + chunk.2.length := by
  induction fuel generalizing before lines with
  | zero => omega
  | succ fuel ih =>
    cases lines with
    | nil =>
      rw [length_nil] at high
      omega
    | cons first rest =>
      have cut : chunksFrom (fuel + 1) before (first :: rest)
          = (before, (first :: rest).take DEFAULT_LINES_PER_REF)
            :: chunksFrom fuel (before + DEFAULT_LINES_PER_REF)
              ((first :: rest).drop DEFAULT_LINES_PER_REF) := rfl
      have taken := length_take (i := DEFAULT_LINES_PER_REF) (l := first :: rest)
      have dropped := length_drop (i := DEFAULT_LINES_PER_REF) (l := first :: rest)
      rw [cut]
      by_cases here : line ≤ before + DEFAULT_LINES_PER_REF
      · refine ⟨(before, _), ⟨.head _, low, ?_⟩, ?_⟩
        · simp only [taken]
          omega
        · rintro other ⟨mem, starts, _⟩
          rcases mem_cons.mp mem with rfl | later
          · rfl
          · have := le_of_mem_chunksFrom later
            omega
      · have shorter : ((first :: rest).drop DEFAULT_LINES_PER_REF).length ≤ fuel := by
          have pos : 0 < DEFAULT_LINES_PER_REF := by decide
          simp only [length_cons] at enough dropped
          omega
        have after : before + DEFAULT_LINES_PER_REF < line := by omega
        obtain ⟨chunk, ⟨mem, starts, ends⟩, only⟩ := ih shorter after (by omega)
        refine ⟨chunk, ⟨.tail _ mem, starts, ends⟩, ?_⟩
        rintro other ⟨mem', starts', ends'⟩
        rcases mem_cons.mp mem' with rfl | later
        · simp only [taken] at ends'
          omega
        · exact only other ⟨later, starts', ends'⟩

/-- A text has as many lines when it is encoded. -/
theorem length_splitAtUnit (s : Text) : (splitAtUnit 0x0A s).length = s.count 0x0A + 1 := by
  induction s with
  | nil => rfl
  | cons u rest ih =>
    rw [splitAtUnit]
    split
    · rename_i newline
      simp [newline, ih]
    · rename_i other
      rw [count_cons_of_ne other]
      split
      · rename_i none
        simp [none] at ih
      · rename_i some
        simpa [some] using ih

theorem length_splitLines (s : Text) : (splitLines s).length = s.count 0x0A + 1 := by
  have pieces := length_splitAtUnit s
  have filled : splitAtUnit 0x0A s ≠ [] := by
    intro empty
    simp [empty] at pieces
  simp only [splitLines, length_append, length_map, length_dropLast,
    getLast?_eq_getLast_of_ne_nil filled, Option.toList_some, length_singleton, pieces]
  omega

theorem count_newline_toWellFormed (s : Text) : (toWellFormed s).count 0x0A = s.count 0x0A := by
  have newline_ne {u : CodeUnit} (lone : (isHighSurrogate u || isLowSurrogate u) = true)
      : u ≠ 0x0A := by
    rintro rfl
    cases lone
  induction s using toWellFormed.induct with
  | case1 => rfl
  | case2 u lone => simp [toWellFormed, lone, newline_ne lone]
  | case3 u plain => simp [toWellFormed, plain]
  | case4 first second rest pair ih => simp only [toWellFormed, pair, if_true, count_cons, ih]
  | case5 first second rest unpaired lone ih =>
    rw [toWellFormed, if_neg unpaired, if_pos lone, count_cons_of_ne (by decide), ih,
      count_cons_of_ne (newline_ne lone)]
  | case6 first second rest unpaired plain ih =>
    rw [toWellFormed, if_neg unpaired, if_neg plain, count_cons, ih, ← count_cons]

structure Receipt where
  (originalBytes compressedBytes : Nat)
  ratio : Number
  (strategy createdAt : Text)

def RECEIPT_STRATEGY : Text := text "cairnstone-v6.server-side-github-fetch-ref-index"

/-- `compressedBytes > 0 ? Number((originalBytes / compressedBytes).toFixed(2)) : 0` -/
def receiptRatio (originalBytes compressedBytes : Nat) : Number :=
  if 0 < compressedBytes then lib.ratioOf originalBytes compressedBytes else .zero

def buildReceipt (content : Text) (refs : List Ref) (created : Text) : Receipt :=
  let originalBytes := utf8ByteLength content
  let compressedBytes := utf8ByteLength (stringify (refsValue refs))
  { originalBytes, compressedBytes, ratio := receiptRatio lib originalBytes compressedBytes
    strategy := RECEIPT_STRATEGY, createdAt := created }

def Receipt.toValue (receipt : Receipt) : Value :=
  .literal
    [(text "original_bytes", count receipt.originalBytes),
      (text "compressed_bytes", count receipt.compressedBytes), (text "ratio", .number receipt.ratio),
      (text "strategy", .string receipt.strategy), (text "created_at", .string receipt.createdAt)]

def flagCounts (refs : List Ref) : List (Text × Nat) :=
  (refs.flatMap (·.flags)).foldl
    (fun counts flag => alterEntry flag.type flag.count (· + flag.count) counts) []

/-- `texts.join(",")` of the counts, the largest first. -/
def flagSummary (refs : List Ref) : Text :=
  joinWithComma
    (((flagCounts refs).insertionSort (fun a b => b.2 ≤ a.2)).map
      (fun entry => entry.1 ++ text ":" ++ digitText entry.2))

def refLine (ref : Ref) : Text :=
  ref.refId ++ text " " ++ lib.string ref.path ++ text ":" ++ digitText ref.lineStart ++ text "-"
    ++ digitText ref.lineEnd ++ text " " ++ joinWithComma (ref.keywords.take 5)
    ++ (if ref.flags = [] then []
        else [0x20, 0x26A0] ++ joinWithComma (ref.flags.map (·.type)))

def buildLayers (title : Value) (author : Text) (repo commit : Value) (content : Text)
    (refs : List Ref) (receipt : Receipt) (rawKey : Text)
    : Value :=
  let lineCount := (splitLines content).length
  let topKeywords := extractKeywords lib content 16
  let total := ((refs.flatMap (·.flags)).map (·.count)).sum
  let lod5 :=
    lib.string title ++ text ": " ++ digitText lineCount ++ text " lines, " ++ digitText refs.length
      ++ text " refs, " ++ receipt.ratio.toText ++ text "x ratio"
      ++ (if total = 0 then [] else text ", " ++ digitText total ++ text " flags")
  let lod4 :=
    (text " | ").intercalate
      ([lod5, text "author=" ++ author]
        ++ (if repo.truthy then [text "repo=" ++ lib.string repo] else [])
        ++ (if commit.truthy then [text "commit=" ++ lib.string commit] else [])
        ++ [text "top=" ++ joinWithComma (topKeywords.take 8)]
        ++ (if total = 0 then [] else [text "flags=" ++ flagSummary refs]))
  .literal
    [(text "lod5", .string lod5), (text "lod4", .string lod4),
      (text "lod3", .string (joinLines ((refs.take 24).map (refLine lib)))),
      (text "lod2",
        .literal [(text "compressed_index", refsValue refs), (text "receipt", receipt.toValue)]),
      (text "lod1",
        .literal
          [(text "raw_key", .string rawKey), (text "raw_bytes", count receipt.originalBytes)])]

end CairnStone.Vault
