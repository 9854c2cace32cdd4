/-
Exemplar.Utility.Manual — what utilities tell about themselves.

Most utilities tell how they are used and which version they are, if they are asked to. Both texts
have parts that are the same for all.

  §1 manuals
  §2 the manuals of the utilities
-/

namespace Exemplar.Utility

/-! ## §1 Manuals -/

/-- What a utility tells about itself, line by line. -/
structure Manual where
  /-- The name that it is known by. -/
  name : String
  /-- What follows on its name, for each way to use it. -/
  ways : List String
  /-- What it does, with its options. -/
  purpose : List String
  /-- What is to be known after the options that are the same for all. -/
  details : List String := []
  authors : String

namespace Manual

/-- Where more can be read. -/
def sources (m : Manual) : List String :=
  ["",
   "GNU coreutils online help: <https://www.gnu.org/software/coreutils/>",
   "Report any translation bugs to <https://translationproject.org/team/>",
   "Full documentation <https://www.gnu.org/software/coreutils/" ++ m.name ++ ">",
   "or available locally via: info '(coreutils) " ++ m.name ++ " invocation'"]

/-- The lines that tell how a utility is used that was called by a name. -/
def help (m : Manual) (called : String) : List String :=
  let way (start arguments : String) : String := start ++ called ++ " " ++ arguments
  let ways := (m.ways.take 1).map (way "Usage: ") ++ (m.ways.drop 1).map (way "  or:  ")
  let shared :=
    ["      --help        display this help and exit",
     "      --version     output version information and exit"]
  ways ++ m.purpose ++ shared ++ m.details ++ m.sources

/-- The lines that tell which version a utility is. -/
def version (m : Manual) : List String :=
  [m.name ++ " (GNU coreutils) 9.1",
   "Copyright (C) 2022 Free Software Foundation, Inc.",
   "License GPLv3+: GNU GPL version 3 or later <https://gnu.org/licenses/gpl.html>.",
   "This is free software: you are free to change and redistribute it.",
   "There is NO WARRANTY, to the extent permitted by law.",
   "",
   "Written by " ++ m.authors ++ "."]

/-- That shells may do by themselves what a utility does. -/
def ownVersion (name : String) : List String :=
  ["",
   "NOTE: your shell may have its own version of " ++ name ++ ", which usually supersedes",
   "the version described here.  Please refer to your shell's documentation",
   "for details about the options it supports."]

/-! ## §2 The manuals of the utilities -/

/-- Of the utility that joins files. -/
def cat : Manual where
  name := "cat"
  ways := ["[OPTION]... [FILE]..."]
  purpose := [
    "Concatenate FILE(s) to standard output.",
    "",
    "With no FILE, or when FILE is -, read standard input.",
    "",
    "  -A, --show-all           equivalent to -vET",
    "  -b, --number-nonblank    number nonempty output lines, overrides -n",
    "  -e                       equivalent to -vE",
    "  -E, --show-ends          display $ at end of each line",
    "  -n, --number             number all output lines",
    "  -s, --squeeze-blank      suppress repeated empty output lines",
    "  -t                       equivalent to -vT",
    "  -T, --show-tabs          display TAB characters as ^I",
    "  -u                       (ignored)",
    "  -v, --show-nonprinting   use ^ and M- notation, except for LFD and TAB"]
  details := [
    "",
    "Examples:",
    "  cat f - g  Output f's contents, then standard input, then g's contents.",
    "  cat        Copy standard input to standard output."]
  authors := "Torbjorn Granlund and Richard M. Stallman"

/-- Of the utility that writes its arguments. -/
def echo : Manual where
  name := "echo"
  ways := ["[SHORT-OPTION]... [STRING]...", "LONG-OPTION"]
  purpose := [
    "Echo the STRING(s) to standard output.",
    "",
    "  -n             do not output the trailing newline",
    "  -e             enable interpretation of backslash escapes",
    "  -E             disable interpretation of backslash escapes (default)"]
  details := [
    "",
    "If -e is in effect, the following sequences are recognized:",
    "",
    "  \\\\      backslash",
    "  \\a      alert (BEL)",
    "  \\b      backspace",
    "  \\c      produce no further output",
    "  \\e      escape",
    "  \\f      form feed",
    "  \\n      new line",
    "  \\r      carriage return",
    "  \\t      horizontal tab",
    "  \\v      vertical tab",
    "  \\0NNN   byte with octal value NNN (1 to 3 digits)",
    "  \\xHH    byte with hexadecimal value HH (1 to 2 digits)"] ++
    ownVersion "echo" ++
    ["",
     "NOTE: printf(1) is a preferred alternative,",
     "which does not have issues outputting option-like strings."]
  authors := "Brian Fox and Chet Ramey"

/-- Of the utility that runs a program with other variables. -/
def env : Manual where
  name := "env"
  ways := ["[OPTION]... [-] [NAME=VALUE]... [COMMAND [ARG]...]"]
  purpose := [
    "Set each NAME to VALUE in the environment and run COMMAND.",
    "",
    "Mandatory arguments to long options are mandatory for short options too.",
    "  -i, --ignore-environment  start with an empty environment",
    "  -0, --null           end each output line with NUL, not newline",
    "  -u, --unset=NAME     remove variable from the environment",
    "  -C, --chdir=DIR      change working directory to DIR",
    "  -S, --split-string=S  process and split S into separate arguments;",
    "                        used to pass multiple arguments on shebang lines",
    "      --block-signal[=SIG]    block delivery of SIG signal(s) to COMMAND",
    "      --default-signal[=SIG]  reset handling of SIG signal(s) to the default",
    "      --ignore-signal[=SIG]   set handling of SIG signal(s) to do nothing",
    "      --list-signal-handling  list non default signal handling to stderr",
    "  -v, --debug          print verbose information for each processing step"]
  details := [
    "",
    "A mere - implies -i.  If no COMMAND, print the resulting environment.",
    "",
    "SIG may be a signal name like 'PIPE', or a signal number like '13'.",
    "Without SIG, all known signals are included.  Multiple signals can be",
    "comma-separated."]
  authors := "Richard Mlynarik, David MacKenzie, and Assaf Gordon"

/-- Of the utility that fails. -/
def failing : Manual where
  name := "false"
  ways := ["[ignored command line arguments]", "OPTION"]
  purpose := [
    "Exit with a status code indicating failure.",
    ""]
  details := ownVersion "false"
  authors := "Jim Meyering"

/-- Of the utility that writes the first part of files. -/
def head : Manual where
  name := "head"
  ways := ["[OPTION]... [FILE]..."]
  purpose := [
    "Print the first 10 lines of each FILE to standard output.",
    "With more than one FILE, precede each with a header giving the file name.",
    "",
    "With no FILE, or when FILE is -, read standard input.",
    "",
    "Mandatory arguments to long options are mandatory for short options too.",
    "  -c, --bytes=[-]NUM       print the first NUM bytes of each file;",
    "                             with the leading '-', print all but the last",
    "                             NUM bytes of each file",
    "  -n, --lines=[-]NUM       print the first NUM lines instead of the first 10;",
    "                             with the leading '-', print all but the last",
    "                             NUM lines of each file",
    "  -q, --quiet, --silent    never print headers giving file names",
    "  -v, --verbose            always print headers giving file names",
    "  -z, --zero-terminated    line delimiter is NUL, not newline"]
  details := [
    "",
    "NUM may have a multiplier suffix:",
    "b 512, kB 1000, K 1024, MB 1000*1000, M 1024*1024,",
    "GB 1000*1000*1000, G 1024*1024*1024, and so on for T, P, E, Z, Y.",
    "Binary prefixes can be used, too: KiB=K, MiB=M, and so on."]
  authors := "David MacKenzie and Jim Meyering"

/-- Of the utility that lists files. -/
def ls : Manual where
  name := "ls"
  ways := ["[OPTION]... [FILE]..."]
  purpose := [
    "List information about the FILEs (the current directory by default).",
    "Sort entries alphabetically if none of -cftuvSUX nor --sort is specified.",
    "",
    "Mandatory arguments to long options are mandatory for short options too.",
    "  -a, --all                  do not ignore entries starting with .",
    "  -A, --almost-all           do not list implied . and ..",
    "      --author               with -l, print the author of each file",
    "  -b, --escape               print C-style escapes for nongraphic characters",
    "      --block-size=SIZE      with -l, scale sizes by SIZE when printing them;",
    "                             e.g., '--block-size=M'; see SIZE format below",
    "",
    "  -B, --ignore-backups       do not list implied entries ending with ~",
    "  -c                         with -lt: sort by, and show, ctime (time of last",
    "                             change of file status information);",
    "                             with -l: show ctime and sort by name;",
    "                             otherwise: sort by ctime, newest first",
    "",
    "  -C                         list entries by columns",
    "      --color[=WHEN]         color the output WHEN; more info below",
    "  -d, --directory            list directories themselves, not their contents",
    "  -D, --dired                generate output designed for Emacs' dired mode",
    "  -f                         do not sort, enable -aU, disable -ls --color",
    "  -F, --classify[=WHEN]      append indicator (one of */=>@|) to entries WHEN",
    "      --file-type            likewise, except do not append '*'",
    "      --format=WORD          across -x, commas -m, horizontal -x, long -l,",
    "                             single-column -1, verbose -l, vertical -C",
    "",
    "      --full-time            like -l --time-style=full-iso",
    "  -g                         like -l, but do not list owner",
    "      --group-directories-first",
    "                             group directories before files;",
    "                             can be augmented with a --sort option, but any",
    "                             use of --sort=none (-U) disables grouping",
    "",
    "  -G, --no-group             in a long listing, don't print group names",
    "  -h, --human-readable       with -l and -s, print sizes like 1K 234M 2G etc.",
    "      --si                   likewise, but use powers of 1000 not 1024",
    "  -H, --dereference-command-line",
    "                             follow symbolic links listed on the command line",
    "      --dereference-command-line-symlink-to-dir",
    "                             follow each command line symbolic link",
    "                             that points to a directory",
    "",
    "      --hide=PATTERN         do not list implied entries matching shell PATTERN",
    "                             (overridden by -a or -A)",
    "",
    "      --hyperlink[=WHEN]     hyperlink file names WHEN",
    "      --indicator-style=WORD",
    "                             append indicator with style WORD to entry names:",
    "                             none (default), slash (-p),",
    "                             file-type (--file-type), classify (-F)",
    "",
    "  -i, --inode                print the index number of each file",
    "  -I, --ignore=PATTERN       do not list implied entries matching shell PATTERN",
    "  -k, --kibibytes            default to 1024-byte blocks for disk usage;",
    "                             used only with -s and per directory totals",
    "",
    "  -l                         use a long listing format",
    "  -L, --dereference          when showing file information for a symbolic",
    "                             link, show information for the file the link",
    "                             references rather than for the link itself",
    "",
    "  -m                         fill width with a comma separated list of entries",
    "  -n, --numeric-uid-gid      like -l, but list numeric user and group IDs",
    "  -N, --literal              print entry names without quoting",
    "  -o                         like -l, but do not list group information",
    "  -p, --indicator-style=slash",
    "                             append / indicator to directories",
    "  -q, --hide-control-chars   print ? instead of nongraphic characters",
    "      --show-control-chars   show nongraphic characters as-is (the default,",
    "                             unless program is 'ls' and output is a terminal)",
    "",
    "  -Q, --quote-name           enclose entry names in double quotes",
    "      --quoting-style=WORD   use quoting style WORD for entry names:",
    "                             literal, locale, shell, shell-always,",
    "                             shell-escape, shell-escape-always, c, escape",
    "                             (overrides QUOTING_STYLE environment variable)",
    "",
    "  -r, --reverse              reverse order while sorting",
    "  -R, --recursive            list subdirectories recursively",
    "  -s, --size                 print the allocated size of each file, in blocks",
    "  -S                         sort by file size, largest first",
    "      --sort=WORD            sort by WORD instead of name: none (-U), size (-S),",
    "                             time (-t), version (-v), extension (-X), width",
    "",
    "      --time=WORD            change the default of using modification times;",
    "                               access time (-u): atime, access, use;",
    "                               change time (-c): ctime, status;",
    "                               birth time: birth, creation;",
    "                             with -l, WORD determines which time to show;",
    "                             with --sort=time, sort by WORD (newest first)",
    "",
    "      --time-style=TIME_STYLE",
    "                             time/date format with -l; see TIME_STYLE below",
    "  -t                         sort by time, newest first; see --time",
    "  -T, --tabsize=COLS         assume tab stops at each COLS instead of 8",
    "  -u                         with -lt: sort by, and show, access time;",
    "                             with -l: show access time and sort by name;",
    "                             otherwise: sort by access time, newest first",
    "",
    "  -U                         do not sort; list entries in directory order",
    "  -v                         natural sort of (version) numbers within text",
    "  -w, --width=COLS           set output width to COLS.  0 means no limit",
    "  -x                         list entries by lines instead of by columns",
    "  -X                         sort alphabetically by entry extension",
    "  -Z, --context              print any security context of each file",
    "      --zero                 end each output line with NUL, not newline",
    "  -1                         list one file per line"]
  details := [
    "",
    "The SIZE argument is an integer and optional unit (example: 10K is 10*1024).",
    "Units are K,M,G,T,P,E,Z,Y (powers of 1024) or KB,MB,... (powers of 1000).",
    "Binary prefixes can be used, too: KiB=K, MiB=M, and so on.",
    "",
    "The TIME_STYLE argument can be full-iso, long-iso, iso, locale, or +FORMAT.",
    "FORMAT is interpreted like in date(1).  If FORMAT is FORMAT1<newline>FORMAT2,",
    "then FORMAT1 applies to non-recent files and FORMAT2 to recent files.",
    "TIME_STYLE prefixed with 'posix-' takes effect only outside the POSIX locale.",
    "Also the TIME_STYLE environment variable sets the default style to use.",
    "",
    "The WHEN argument defaults to 'always' and can also be 'auto' or 'never'.",
    "",
    "Using color to distinguish file types is disabled both by default and",
    "with --color=never.  With --color=auto, ls emits color codes only when",
    "standard output is connected to a terminal.  The LS_COLORS environment",
    "variable can change the settings.  Use the dircolors command to set it.",
    "",
    "Exit status:",
    " 0  if OK,",
    " 1  if minor problems (e.g., cannot access subdirectory),",
    " 2  if serious trouble (e.g., cannot access command-line argument)."]
  authors := "Richard M. Stallman and David MacKenzie"

/-- Of the utility that writes its arguments in a format. -/
def printf : Manual where
  name := "printf"
  ways := ["FORMAT [ARGUMENT]...", "OPTION"]
  purpose := [
    "Print ARGUMENT(s) according to FORMAT, or execute according to OPTION:",
    ""]
  details := [
    "",
    "FORMAT controls the output as in C printf.  Interpreted sequences are:",
    "",
    "  \\\"      double quote",
    "  \\\\      backslash",
    "  \\a      alert (BEL)",
    "  \\b      backspace",
    "  \\c      produce no further output",
    "  \\e      escape",
    "  \\f      form feed",
    "  \\n      new line",
    "  \\r      carriage return",
    "  \\t      horizontal tab",
    "  \\v      vertical tab",
    "  \\NNN    byte with octal value NNN (1 to 3 digits)",
    "  \\xHH    byte with hexadecimal value HH (1 to 2 digits)",
    "  \\uHHHH  Unicode (ISO/IEC 10646) character with hex value HHHH (4 digits)",
    "  \\UHHHHHHHH  Unicode character with hex value HHHHHHHH (8 digits)",
    "  %%      a single %",
    "  %b      ARGUMENT as a string with '\\' escapes interpreted,",
    "          except that octal escapes are of the form \\0 or \\0NNN",
    "  %q      ARGUMENT is printed in a format that can be reused as shell input,",
    "          escaping non-printable characters with the proposed POSIX $'' syntax.",
    "",
    "and all C format specifications ending with one of diouxXfeEgGcs, with",
    "ARGUMENTs converted to proper type first.  Variable widths are handled."] ++
    ownVersion "printf"
  authors := "David MacKenzie"

/-- Of the utility that waits. -/
def sleep : Manual where
  name := "sleep"
  ways := ["NUMBER[SUFFIX]...", "OPTION"]
  purpose := [
    "Pause for NUMBER seconds.  SUFFIX may be 's' for seconds (the default),",
    "'m' for minutes, 'h' for hours or 'd' for days.  NUMBER need not be an",
    "integer.  Given two or more arguments, pause for the amount of time",
    "specified by the sum of their values.",
    ""]
  authors := "Jim Meyering and Paul Eggert"

/-- Of the utility that replaces bytes. -/
def tr : Manual where
  name := "tr"
  ways := ["[OPTION]... STRING1 [STRING2]"]
  purpose := [
    "Translate, squeeze, and/or delete characters from standard input,",
    "writing to standard output.  STRING1 and STRING2 specify arrays of",
    "characters ARRAY1 and ARRAY2 that control the action.",
    "",
    "  -c, -C, --complement    use the complement of ARRAY1",
    "  -d, --delete            delete characters in ARRAY1, do not translate",
    "  -s, --squeeze-repeats   replace each sequence of a repeated character",
    "                            that is listed in the last specified ARRAY,",
    "                            with a single occurrence of that character",
    "  -t, --truncate-set1     first truncate ARRAY1 to length of ARRAY2"]
  details := [
    "",
    "ARRAYs are specified as strings of characters.  Most represent themselves.",
    "Interpreted sequences are:",
    "",
    "  \\NNN            character with octal value NNN (1 to 3 octal digits)",
    "  \\\\              backslash",
    "  \\a              audible BEL",
    "  \\b              backspace",
    "  \\f              form feed",
    "  \\n              new line",
    "  \\r              return",
    "  \\t              horizontal tab",
    "  \\v              vertical tab",
    "  CHAR1-CHAR2     all characters from CHAR1 to CHAR2 in ascending order",
    "  [CHAR*]         in ARRAY2, copies of CHAR until length of ARRAY1",
    "  [CHAR*REPEAT]   REPEAT copies of CHAR, REPEAT octal if starting with 0",
    "  [:alnum:]       all letters and digits",
    "  [:alpha:]       all letters",
    "  [:blank:]       all horizontal whitespace",
    "  [:cntrl:]       all control characters",
    "  [:digit:]       all digits",
    "  [:graph:]       all printable characters, not including space",
    "  [:lower:]       all lower case letters",
    "  [:print:]       all printable characters, including space",
    "  [:punct:]       all punctuation characters",
    "  [:space:]       all horizontal or vertical whitespace",
    "  [:upper:]       all upper case letters",
    "  [:xdigit:]      all hexadecimal digits",
    "  [=CHAR=]        all characters which are equivalent to CHAR",
    "",
    "Translation occurs if -d is not given and both STRING1 and STRING2 appear.",
    "-t is only significant when translating.  ARRAY2 is extended to length of",
    "ARRAY1 by repeating its last character as necessary.  Excess characters",
    "of ARRAY2 are ignored.  Character classes expand in unspecified order;",
    "while translating, [:lower:] and [:upper:] may be used in pairs to",
    "specify case conversion.  Squeezing occurs after translation or deletion."]
  authors := "Jim Meyering"

/-- Of the utility that succeeds. -/
def succeeding : Manual where
  name := "true"
  ways := ["[ignored command line arguments]", "OPTION"]
  purpose := [
    "Exit with a status code indicating success.",
    ""]
  details := ownVersion "true"
  authors := "Jim Meyering"

/-- Of the utility that counts. -/
def wc : Manual where
  name := "wc"
  ways := ["[OPTION]... [FILE]...", "[OPTION]... --files0-from=F"]
  purpose := [
    "Print newline, word, and byte counts for each FILE, and a total line if",
    "more than one FILE is specified.  A word is a non-zero-length sequence of",
    "printable characters delimited by white space.",
    "",
    "With no FILE, or when FILE is -, read standard input.",
    "",
    "The options below may be used to select which counts are printed, always in",
    "the following order: newline, word, character, byte, maximum line length.",
    "  -c, --bytes            print the byte counts",
    "  -m, --chars            print the character counts",
    "  -l, --lines            print the newline counts",
    "      --files0-from=F    read input from the files specified by",
    "                           NUL-terminated names in file F;",
    "                           If F is - then read names from standard input",
    "  -L, --max-line-length  print the maximum display width",
    "  -w, --words            print the word counts"]
  authors := "Paul Rubin and David MacKenzie"

end Manual

end Exemplar.Utility
