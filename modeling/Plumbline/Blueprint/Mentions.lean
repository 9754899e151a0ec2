import Plumbline.Text.Case
import Plumbline.Text.Class
import Plumbline.Text.Search

namespace Plumbline

/-- A file that a text may mention, in one of several spellings and whatever the case. -/
structure Mention where
  name : String
  spellings : List String
  /-- Whether the character before is of another kind than the first one: part of a word or not. -/
  beginsWord : Bool
  /-- Whether the character behind is of another kind than the last one. -/
  endsWord : Bool
deriving DecidableEq, Repr

namespace Mention

open Text

def file (name : String) (spellings : List String) : Mention := ⟨name, spellings, false, false⟩

def isWordAt (c : Option Char) : Bool := (c.map isWord).getD false

/-- Whether a text begins with a spelling in small letters, whatever its case. -/
def begins : List Char → List Char → Bool
  | [], _ => true
  | _ :: _, [] => false
  | a :: spelling, c :: s => foldChar c == a && begins spelling s

/-- Whether a spelling, given in small letters, stands at the front of a text. -/
def standsAt (mention : Mention) (before : Option Char) (s : List Char) (spelling : List Char) : Bool :=
  begins spelling s &&
    (!mention.beginsWord || isWordAt before != isWordAt (s.take spelling.length).head?) &&
    (!mention.endsWord || isWordAt (s.take spelling.length).getLast? != isWordAt (s.drop spelling.length).head?)

/-- Whether one of several spellings stands somewhere in a text. -/
def occursAs (mention : Mention) (spellings : List (List Char)) (before : Option Char) : List Char → Bool
  | [] => false
  | c :: s =>
    (spellings.any fun spelling => mention.standsAt before (c :: s) spelling) ||
      mention.occursAs spellings (some c) s

/-- Whether a text mentions the file. -/
def occursIn (mention : Mention) (before : Option Char) (s : List Char) : Bool :=
  mention.occursAs (mention.spellings.map String.toList) before s

def configuration : List Mention := [
  file ".env.example" [".env"],
  file "pyproject.toml" ["pyproject.toml"],
  file "requirements.txt" ["requirements.txt"],
  file "package.json" ["package.json"],
  file "tsconfig.json" ["tsconfig.json"],
  file "vite.config" ["vite.config.js", "vite.config.ts"],
  file "settings.py" ["settings.py"],
  file ".gitignore" [".gitignore"],
  file ".pre-commit-config.yaml" [".pre-commit-config.yaml"],
  file "docker-compose.yml" ["docker-compose.yml", "docker-compose.yaml"],
  file ".github/workflows" [".github/workflows/"]]

def documentation : List Mention := [
  file "README.md" ["readme.md"],
  file "CHANGELOG.md" ["changelog.md"],
  file "CONTRIBUTING.md" ["contributing.md"],
  ⟨"LICENSE", ["license"], true, true⟩,
  ⟨"docs/", ["docs/"], true, false⟩]

def containers : List Mention := [
  file "Dockerfile" ["dockerfile"],
  file "docker-compose.yml" ["docker-compose.yml", "docker-compose.yaml"],
  file ".dockerignore" [".dockerignore"]]

/-- The names of the files that a text mentions. -/
def find (mentions : List Mention) (text : String) : List String :=
  (mentions.filter fun mention => mention.occursIn none text.toList).map Mention.name

end Mention

end Plumbline
