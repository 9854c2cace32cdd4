/-
Exemplar.Utility.Contents.Settings — how files are listed.

Options are read in order and leave a `Wish`: what was asked for, with much left open. The
environment and the other wishes settle what is open; that gives the `Settings`.

  §1 what can be asked for
  §2 wishes
  §3 words and options
  §4 reading options
  §5 settings
-/
import Exemplar.Utility.Basic
import Exemplar.Utility.Contents.Palette
import Exemplar.Utility.Sizes

namespace Exemplar.Utility.Contents

/-! ## §1 What can be asked for -/

/-- Which of the names that start with a dot are listed. -/
inductive Hidden where
  | none
  | allButLinks
  | all
  deriving DecidableEq

/-- What entries are sorted by. -/
inductive Order where
  | name
  | version
  | size
  | time
  | ending
  | width
  | unsorted
  deriving DecidableEq

/-- How names stand in lines. -/
inductive Arrangement where
  | single
  /-- In lines of their own, with what is known of the files. -/
  | long
  | commas
  | across
  | down
  deriving DecidableEq

/-- Which kinds of files are told by a character after the name. -/
inductive Marks where
  | none
  | directories
  | kinds
  | kindsAndPrograms
  deriving DecidableEq

/-- Which links stand for what they lead to. -/
inductive Follow where
  | none
  | directories
  | operands
  | all
  deriving DecidableEq

/-- Which of the times of a file is meant. -/
inductive Time where
  | written
  | changed
  | used
  | made
  deriving DecidableEq

/-! ## §2 Wishes -/

/-- What options ask for. -/
structure Wish where
  hidden : Hidden := .none
  order : Option Order := none
  reversed : Bool := false
  directoriesFirst : Bool := false
  arrangement : Option Arrangement := none
  width : Option Nat := none
  tab : Option Nat := none
  marks : Marks := .none
  style : Option Quoting.Style := none
  /-- Whether characters that cannot be printed are shown as question marks. -/
  hidesControls : Bool := false
  follow : Option Follow := none
  /-- Whether directories are listed, and not what they hold. -/
  isItself : Bool := false
  recursive : Bool := false
  /-- Whether lines end with a byte zero. -/
  endsWithZero : Bool := false
  /-- Patterns of names that are not listed; those `passedOver` count only where names with
  a dot are not listed either. -/
  ignored : List String := []
  passedOver : List String := []
  coloured : Bool := false
  time : Time := .written
  timeStyle : Option String := none
  /-- Which columns long lines have, and whether owners and groups are told by number. -/
  hasOwner : Bool := true
  hasGroup : Bool := true
  hasAuthor : Bool := false
  numeric : Bool := false
  /-- Whether security contexts, and the room that files take, are told. -/
  hasContext : Bool := false
  hasBlocks : Bool := false
  /-- Whether that room is told in units of 1024 bytes, whatever the environment says. -/
  kibibytes : Bool := false
  scale : Option Scale := none
  /-- Whether it is to be told where names stand in what is written. -/
  tellsPlaces : Bool := false

/-! ## §3 Words and options -/

/-- The options. Those that have only a name have letters that cannot be typed. -/
def spec : OptionSpec where
  bare := "abcdfghiklmnopqrstuvxABCDFGHLNQRSUXZ1"
  withArgument := "wIT\u0110\u0111\u0112\u0113\u0114\u0115\u0116\u0117\u0118"
  mayHaveArgument := "F\u0120\u0121"
  implied := "always"
  long := [("all", 'a'), ("escape", 'b'), ("directory", 'd'), ("dired", 'D'),
    ("full-time", '\u0107'), ("group-directories-first", '\u0100'), ("human-readable", 'h'),
    ("inode", 'i'), ("kibibytes", 'k'), ("numeric-uid-gid", 'n'), ("no-group", 'G'),
    ("hide-control-chars", 'q'), ("reverse", 'r'), ("size", 's'), ("width", 'w'),
    ("almost-all", 'A'), ("ignore-backups", 'B'), ("classify", 'F'), ("file-type", '\u0101'),
    ("si", '\u0102'), ("dereference-command-line", 'H'),
    ("dereference-command-line-symlink-to-dir", '\u0103'), ("hide", '\u0110'), ("ignore", 'I'),
    ("indicator-style", '\u0111'), ("dereference", 'L'), ("literal", 'N'), ("quote-name", 'Q'),
    ("quoting-style", '\u0112'), ("recursive", 'R'), ("format", '\u0113'),
    ("show-control-chars", '\u0104'), ("sort", '\u0114'), ("tabsize", 'T'), ("time", '\u0115'),
    ("time-style", '\u0116'), ("zero", '\u0105'), ("color", '\u0120'), ("hyperlink", '\u0121'),
    ("block-size", '\u0117'), ("context", 'Z'), ("author", '\u0106')]
  status := 2
  manual? := some .ls

/-- The words for whether something is done. -/
def whenever : List (List String × Bool) :=
  [(["always", "yes", "force"], true), (["never", "no", "none"], false),
   (["auto", "tty", "if-tty"], false)]

/-- The words for what entries are sorted by. -/
def orders : List (List String × Order) :=
  [(["none"], .unsorted), (["time"], .time), (["size"], .size), (["extension"], .ending),
   (["version"], .version), (["width"], .width)]

/-- The words for how names stand in lines. -/
def arrangements : List (List String × Arrangement) :=
  [(["verbose", "long"], .long), (["commas"], .commas), (["horizontal", "across"], .across),
   (["vertical"], .down), (["single-column"], .single)]

/-- The words for which kinds of files are told. -/
def markings : List (List String × Marks) :=
  [(["none"], .none), (["slash"], .directories), (["file-type"], .kinds),
   (["classify"], .kindsAndPrograms)]

/-- The words for how names are written. -/
def styles : List (List String × Quoting.Style) :=
  [(["literal"], .plain), (["shell"], .script false false),
   (["shell-always"], .script true false), (["shell-escape"], .script false true),
   (["shell-escape-always"], .script true true), (["c"], .string true),
   (["c-maybe"], .string false), (["escape"], .escaped), (["locale"], .message),
   (["clocale"], .doubleMessage)]

/-- The words for the times of files. -/
def times : List (List String × Time) :=
  [(["atime", "access", "use"], .used), (["ctime", "status"], .changed),
   (["birth", "creation"], .made)]

/-! ## §4 Reading options -/

/-- The number that a text writes, with its start showing the base, and whether it fits into 64
bits. -/
def wholeNumber? (text : String) : Option (Nat × Bool) :=
  match Number.scan none text.toList with
  | some scanned =>
    if scanned.negative || !scanned.rest.isEmpty then none
    else some (scanned.size, scanned.size ≤ 0xFFFFFFFFFFFFFFFF)
  | none => none

/-- The length of a line: one that is far too long counts as none. -/
def lineWidth? (text : String) : Option Nat :=
  (wholeNumber? text).map fun (n, _) => if n ≤ Number.greatest then n else 0

/-- The length of lines that an option asks for. -/
def needWidth (text : String) : Tool Nat := do
  match lineWidth? text with
  | some n => return n
  | none =>
    grumble ("invalid line width: " ++ (← shownArgument text))
    quit 2

/-- The distance of tabulators that an option asks for. -/
def needTab (text : String) : Tool Nat := do
  match wholeNumber? text with
  | some (n, true) => if n ≤ Number.greatest then return n else refuseSize ": "
  | some (_, false) => refuseSize ": "
  | none => refuseSize ""
where
  refuseSize (after : String) : Tool Nat := do
    let why := if after = "" then "" else after ++ Errno.overflow.text
    grumble ("invalid tab size: " ++ (← shownArgument text) ++ why)
    quit 2

/-- Whether something that can be asked for by a word is to be done. -/
def isWanted (option word : String) : Tool Bool := readChoice option word whenever

/-- What an option changes. -/
def Wish.apply (w : Wish) (letter : Char) (argument : String) : Tool Wish := do
  match letter with
  | 'a' => return { w with hidden := .all }
  | 'A' => return { w with hidden := .allButLinks }
  | 'b' => return { w with style := some .escaped }
  | 'B' => return { w with ignored := "*~" :: ".*~" :: w.ignored }
  | 'c' => return { w with time := .changed }
  | 'C' => return { w with arrangement := some .down }
  | 'd' => return { w with isItself := true }
  | 'D' => return { w with tellsPlaces := true }
  | 'f' =>
    let arrangement := w.arrangement.filter (· ≠ .long)
    return { w with
      hidden := .all, order := some .unsorted, arrangement, coloured := false, hasBlocks := false }
  | 'F' =>
    if ← isWanted "--classify" argument then return { w with marks := .kindsAndPrograms }
    return w
  | 'g' => return { w with arrangement := some .long, hasOwner := false }
  | 'G' => return { w with hasGroup := false }
  | 'h' => return { w with scale := some .human }
  | 'H' => return { w with follow := some .operands }
  | 'I' => return { w with ignored := argument :: w.ignored }
  | 'k' => return { w with kibibytes := true }
  | 'l' => return { w with arrangement := some .long }
  | 'L' => return { w with follow := some .all }
  | 'm' => return { w with arrangement := some .commas }
  | 'n' => return { w with arrangement := some .long, numeric := true }
  | 'N' => return { w with style := some .plain }
  | 'o' => return { w with arrangement := some .long, hasGroup := false }
  | 'p' => return { w with marks := .directories }
  | 'q' => return { w with hidesControls := true }
  | 'Q' => return { w with style := some (.string true) }
  | 'r' => return { w with reversed := true }
  | 'R' => return { w with recursive := true }
  | 's' => return { w with hasBlocks := true }
  | 'S' => return { w with order := some .size }
  | 't' => return { w with order := some .time }
  | 'T' => return { w with tab := some (← needTab argument) }
  | 'u' => return { w with time := .used }
  | 'U' => return { w with order := some .unsorted }
  | 'v' => return { w with order := some .version }
  | 'w' => return { w with width := some (← needWidth argument) }
  | 'x' => return { w with arrangement := some .across }
  | 'X' => return { w with order := some .ending }
  | 'Z' => return { w with hasContext := true }
  | '1' => return if w.arrangement = some .long then w else { w with arrangement := some .single }
  | '\u0100' => return { w with directoriesFirst := true }
  | '\u0101' => return { w with marks := .kinds }
  | '\u0102' => return { w with scale := some .decimal }
  | '\u0103' => return { w with follow := some .directories }
  | '\u0104' => return { w with hidesControls := false }
  | '\u0105' =>
    let arrangement := if w.arrangement = some .long then w.arrangement else some .single
    return { w with
      endsWithZero := true, hidesControls := false, style := some .plain, arrangement
      coloured := false }
  | '\u0106' => return { w with hasAuthor := true }
  | '\u0107' => return { w with arrangement := some .long, timeStyle := some "full-iso" }
  | '\u0110' => return { w with passedOver := argument :: w.passedOver }
  | '\u0111' => return { w with marks := ← readChoice "--indicator-style" argument markings }
  | '\u0112' => return { w with style := some (← readChoice "--quoting-style" argument styles) }
  | '\u0113' =>
    return { w with arrangement := some (← readChoice "--format" argument arrangements) }
  | '\u0114' => return { w with order := some (← readChoice "--sort" argument orders) }
  | '\u0115' => return { w with time := ← readChoice "--time" argument times }
  | '\u0116' => return { w with timeStyle := some argument }
  | '\u0117' =>
    match Scale.ofText argument with
    | .ok scale => return { w with scale := some scale }
    | .error fault =>
      grumble (fault.message "--block-size" argument)
      quit 2
  | '\u0120' => return { w with coloured := ← isWanted "--color" argument }
  | '\u0121' =>
    let _ ← isWanted "--hyperlink" argument
    return w
  | _ => return w

/-! ## §5 Settings -/

/-- The patterns for times where none are asked for. -/
def usualPatterns : String × String := ("%b %e  %Y", "%b %e %H:%M")

/-- How files are listed, with nothing left open. -/
structure Settings extends Wish where
  charset : Charset
  orderBy : Order
  inLines : Arrangement
  /-- How long lines are, and how far tabulators are apart; lines of length zero never end. -/
  lineWidth : Nat
  tabWidth : Nat
  quoting : Quoting.Style
  /-- The colours of names, if they have some. -/
  palette? : Option Palette
  /-- The patterns for times that are long ago or to come, and for others. -/
  timePatterns : String × String
  /-- The units for the room that files take, and for their sizes. -/
  blockScale : Scale
  sizeScale : Scale

/-- Whether names without quotes are moved so that they stand below those with some. -/
def Settings.aligns (s : Settings) : Bool :=
  let mayQuote := match s.quoting with
    | .script false _ | .string false => true
    | _ => false
  let isWide := match s.inLines with
    | .long => true
    | .down | .across => s.lineWidth ≠ 0
    | _ => false
  mayQuote && isWide

/-- What a line ends with. -/
def Settings.lineEnding (s : Settings) : String := if s.endsWithZero then "\x00" else "\n"

/-- Which links stand for what they lead to. -/
def Settings.following (s : Settings) : Follow :=
  s.follow.getD (if s.isItself || s.marks = .kindsAndPrograms || s.inLines = .long then .none
    else .directories)

/-- Whether it has to be known what links lead to, for colours, marks or the order. -/
def Settings.resolves (s : Settings) : Bool :=
  let forMarks : Bool := s.inLines = .long && (s.marks = .kinds || s.marks = .kindsAndPrograms)
  s.directoriesFirst || forMarks || s.palette?.any fun p =>
    p.isColoured "or" || (p.isColoured "ex" && p.followsLinks) ||
      (p.isColoured "mi" && s.inLines = .long)

/-- Whether what is known of the files has to be looked up. -/
def Settings.looksUp (s : Settings) : Bool :=
  s.orderBy = .time || s.orderBy = .size || s.inLines = .long || s.hasContext || s.hasBlocks

/-- The value of a variable of the environment, if there is one that is not empty. -/
def valueOf? (name : String) : Tool (Option String) := do
  return ((← get).environment.lookup name).filter (· ≠ "")

/-- The length of lines: as asked for, or as a variable says. -/
def widthFor (w : Wish) (counts : Bool) : Tool Nat := do
  match w.width, counts, ← valueOf? "COLUMNS" with
  | some width, _, _ => return width
  | none, true, some text =>
    match lineWidth? text with
    | some width => return width
    | none =>
      grumble ("ignoring invalid width in environment variable COLUMNS: " ++
        (← shownArgument text))
      return 80
  | _, _, _ => return 80

/-- How far tabulators are apart: as asked for, or as a variable says. -/
def tabFor (w : Wish) : Tool Nat := do
  match w.tab, (← get).environment.lookup "TABSIZE" with
  | some tab, _ => return tab
  | none, none => return 8
  | none, some text =>
    match wholeNumber? text with
    | some (tab, true) => return tab
    | _ =>
      grumble ("ignoring invalid tab size in environment variable TABSIZE: " ++
        (← shownArgument text))
      return 8

/-- How names are written: as asked for, or as a variable says. -/
def styleFor (w : Wish) : Tool Quoting.Style := do
  match w.style, (← get).environment.lookup "QUOTING_STYLE" with
  | some style, _ => return style
  | none, none => return .plain
  | none, some word =>
    let exact := styles.find? (·.1.contains word)
    let hits := styles.filter fun c => c.1.any fun name => word.toList.isPrefixOf name.toList
    match exact, hits with
    | some hit, _ | none, [hit] => return hit.2
    | _, _ =>
      grumble ("ignoring invalid value of environment variable QUOTING_STYLE: " ++
        (← shownArgument word))
      return .plain

/-- The terminals that show colours, by patterns of their names. -/
def colourTerminals : List (String × Bool) :=
  [("Eterm", false), ("ansi", false), ("con", true), ("cons25", false), ("console", false),
   ("cygwin", false), ("dtterm", false), ("gnome", false), ("hurd", false), ("jfbterm", false),
   ("konsole", false), ("kterm", false), ("linux", false), ("linux-c", false), ("mlterm", false),
   ("putty", false), ("rxvt", true), ("screen", true), ("st", false), ("terminator", false),
   ("tmux", true), ("vt100", false), ("xterm", true)]

/-- Whether the environment tells of a terminal that shows colours. -/
def showsColours : Tool Bool := do
  if (← valueOf? "COLORTERM").isSome then return true
  let terminal := ((← get).environment.lookup "TERM").getD ""
  return (terminal.splitOn "color").length ≠ 1 || (terminal.splitOn "direct").length ≠ 1 ||
    colourTerminals.any fun (name, goesOn) =>
      terminal = name || (goesOn && name.toList.isPrefixOf terminal.toList)

/-- The colours of names, if they are to have some: those that a variable gives, or else the usual
ones on a terminal that shows them. -/
def paletteFor (w : Wish) : Tool (Option Palette) := do
  match w.coloured, (← valueOf? "LS_COLORS").map Palette.ofText with
  | false, _ => return none
  | true, none => return if ← showsColours then some {} else none
  | true, some (.ok palette) => return some palette
  | true, some (.error fault) =>
    match fault with
    | .unknownName name => grumble ("unrecognized prefix: " ++ (← shownArgument name))
    | .broken => pure ()
    grumble "unparsable value for LS_COLORS environment variable"
    return none

/-- The unit for the room that files take and the one for their sizes. -/
def scalesFor (w : Wish) : Tool (Scale × Scale) := do
  match w.scale with
  | some scale => return (scale, scale)
  | none =>
    let environment := (← get).environment
    let own := environment.lookup "LS_BLOCK_SIZE"
    let shared := environment.lookup "BLOCK_SIZE"
    let usual := if ← isStrict then Scale.smallBlocks else .blocks
    let scale := match own.or (shared.or (environment.lookup "BLOCKSIZE")) with
      | none => usual
      | some text => match Scale.ofText text with
        | .ok scale => scale
        | .error fault => (fault.unit?.map fun unit => { unit }).getD usual
    let blockScale := if w.kibibytes then .blocks else scale
    return (blockScale, if own.isSome || shared.isSome then scale else .bytes)

/-- The words for how times are shown, with the patterns for those long ago or to come and for
others. -/
def timeStyles : List (String × String × String) :=
  let full := "%Y-%m-%d %H:%M:%S.%N %z"
  [("full-iso", full, full), ("long-iso", "%Y-%m-%d %H:%M", "%Y-%m-%d %H:%M"),
   ("iso", "%Y-%m-%d ", "%m-%d %H:%M"), ("locale", usualPatterns)]

/-- A word for how times are shown, without what keeps it from counting where there is no locale;
none if there is no locale and it does not count. -/
def countedStyle? (set : Charset) : (fuel : Nat) → List Char → Option (List Char)
  | 0, cs => some cs
  | fuel + 1, cs =>
    if !"posix-".toList.isPrefixOf cs then some cs
    else if set = .ascii then none
    else countedStyle? set fuel (cs.drop "posix-".length)

/-- The patterns for times. -/
def timePatternsFor (w : Wish) : Tool (String × String) := do
  let word := (w.timeStyle.or ((← get).environment.lookup "TIME_STYLE")).getD "locale"
  match countedStyle? (← charset) word.length word.toList with
  | none => return usualPatterns
  | some cs =>
    let word := String.ofList cs
    match cs with
    | '+' :: cs =>
      match Text.split '\n' (String.ofList cs) with
      | [only] => return (only, only)
      | [old, recent] => return (old, recent)
      | _ =>
        grumble ("invalid time style format " ++ (← shownArgument (String.ofList cs)))
        quit 2
    | cs =>
      let exact := timeStyles.find? (·.1 = word)
      let hits := timeStyles.filter fun style => cs.isPrefixOf style.1.toList
      match exact, hits with
      | some style, _ | none, [style] => return style.2
      | _, _ =>
        grumble ((if hits.isEmpty then "invalid" else "ambiguous") ++ " argument " ++
          (← shownArgument word) ++ " for " ++ (← shownArgument "time style"))
        addLine "Valid arguments are:"
        for (name, _) in timeStyles do addLine ("  - [posix-]" ++ name)
        addLine "  - +FORMAT (e.g., +%H:%M) for a 'date'-style format"
        giveUp 2

/-- Settles what wishes leave open. -/
def settle (w : Wish) : Tool Settings := do
  let inLines := w.arrangement.getD .single
  let isWide := inLines = .down || inLines = .across || inLines = .commas
  let (blockScale, sizeScale) ← scalesFor w
  let lineWidth ← widthFor w (isWide || w.coloured)
  let tab ← if isWide then tabFor w else pure 8
  let quoting ← styleFor w
  if w.tellsPlaces && inLines = .long && w.endsWithZero then
    grumble "--dired and --zero are incompatible"
    quit 2
  let byTime := inLines ≠ .long && (w.time = .changed || w.time = .used)
  let orderBy := w.order.getD (if byTime then .time else .name)
  let timePatterns ← if inLines = .long then timePatternsFor w else pure usualPatterns
  let palette? ← paletteFor w
  return {
    toWish := w, charset := ← charset, orderBy, inLines, lineWidth
    tabWidth := if palette?.isSome then 0 else tab
    quoting, palette?, timePatterns, blockScale, sizeScale }

/-- How files are listed, and the operands. -/
def settingsOf (args : List String) : Tool (Settings × List String) := do
  let check (letter : Char) (argument : String) : Tool Unit := do
    let _ ← ({} : Wish).apply letter argument
  let parsed ← parse { spec with check } args
  let wish ← parsed.options.foldlM (fun w (o : Char × String) => w.apply o.1 o.2) ({} : Wish)
  return (← settle wish, parsed.operands)

end Exemplar.Utility.Contents
