import FormCompiler.Text.Numeral

namespace FormCompiler.Text

def version : String := "0.1.3"

def prompt : String := "→ "

def continuationPrompt : String := "  "

def reset : String := "\x1b[0m"
def red (s : String) : String := "\x1b[31m" ++ s ++ reset
def green (s : String) : String := "\x1b[32m" ++ s ++ reset
def yellow (s : String) : String := "\x1b[33m" ++ s ++ reset
def cyan (s : String) : String := "\x1b[36m" ++ s ++ reset

def emphasise (s : String) : String := "'" ++ s ++ "'"

def plural (n : Int) (noun : String) : String :=
  if n = 1 then "1 " ++ noun else Numeral.ofInt n ++ " " ++ noun ++ "s"

/-- The banner. The title has an odd number of characters, so that the wing sits above its middle. -/
def logo : String :=
  let comma := if version.utf8ByteSize % 2 = 1 then "," else ""
  let title := " Tern" ++ comma ++ " version " ++ version ++ " "
  let bar := String.ofList (List.replicate (title.utf8ByteSize / 2) '═')
  let wing := cyan "≻"
  "\n" ++
    "  ╔" ++ bar ++ wing ++ bar ++ "╗\n" ++
    "  ║" ++ title ++ "║\n" ++
    "  ╚" ++ bar ++ wing ++ bar ++ "╝\n\n"

def help : String :=
  "\nUsage: tern [-v | --version] [-h | --help]\n" ++
  "            <command> [args]\n\n" ++
  "Commands are:\n\n" ++
  "  repl            Starts the Tern REPL. This is also what happens if you give no command.\n" ++
  "  compile <file>  Compiles a Tern source file and writes the LLVM IR to standard output.\n\n" ++
  "The metadata store is configured with the environment variables TERN_DB_DRIVER and TERN_DB_DSN.\n\n"

def bullet : String := "  ▪ "

def interactiveHelp : String :=
  "\nEnter a definition to compile it, or one of:\n\n" ++
  bullet ++ "ir        shows the LLVM IR of everything compiled so far\n" ++
  bullet ++ "errors    lists the errors from the last thing you entered\n" ++
  bullet ++ "why <n>   explains error number n\n" ++
  bullet ++ "drivers   lists the SQL drivers the metadata store can use\n" ++
  bullet ++ "quit      leaves the REPL\n\n"

def joinNonEmpty (separator : String) (parts : List String) : String :=
  separator.intercalate (parts.filter (fun p => !p.isEmpty))

def isBlank (c : Char) : Bool :=
  let n := c.toNat
  (9 ≤ n && n ≤ 13) || n == 0x20 || n == 0x85 || n == 0xA0 || n == 0x1680 ||
    (0x2000 ≤ n && n ≤ 0x200A) || n == 0x2028 || n == 0x2029 || n == 0x202F || n == 0x205F || n == 0x3000

def trimChars (cs : List Char) : List Char := ((cs.dropWhile isBlank).reverse.dropWhile isBlank).reverse

def trim (s : String) : String := String.ofList (trimChars s.toList)

def cutAtBlanks : List Char → List Char × List (List Char)
  | [] => ([], [])
  | c :: cs =>
    let (run, runs) := cutAtBlanks cs
    if isBlank c then ([], run :: runs) else (c :: run, runs)

def words (s : String) : List String :=
  let (run, runs) := cutAtBlanks s.toList
  ((run :: runs).filter (fun w => !w.isEmpty)).map String.ofList

end FormCompiler.Text
