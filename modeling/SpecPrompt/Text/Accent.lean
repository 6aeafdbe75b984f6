/-!
# Accents

Folding the accented Latin letters used in Portuguese and its neighbours to their base letters.
-/

namespace SpecPrompt

/-- Each base letter with the accented letters that fold to it. -/
def accentedLetters : List (Char × List Char) :=
  [('a', ['á', 'à', 'â', 'ã', 'ä']), ('A', ['Á', 'À', 'Â', 'Ã', 'Ä']),
   ('e', ['é', 'è', 'ê', 'ë']), ('E', ['É', 'È', 'Ê', 'Ë']),
   ('i', ['í', 'ì', 'î', 'ï']), ('I', ['Í', 'Ì', 'Î', 'Ï']),
   ('o', ['ó', 'ò', 'ô', 'õ', 'ö']), ('O', ['Ó', 'Ò', 'Ô', 'Õ', 'Ö']),
   ('u', ['ú', 'ù', 'û', 'ü']), ('U', ['Ú', 'Ù', 'Û', 'Ü']),
   ('c', ['ç']), ('C', ['Ç']), ('n', ['ñ']), ('N', ['Ñ'])]

/-- The base letter of an accented letter; any other character is its own. -/
def baseLetter (c : Char) : Char :=
  match accentedLetters.find? fun entry => entry.2.contains c with
  | some (base, _) => base
  | none => c

/-- `cs` with every accented letter replaced by its base letter. -/
def Chars.stripAccents (cs : List Char) : List Char :=
  cs.map baseLetter

/-- `s` with every accented letter replaced by its base letter. -/
def Text.stripAccents (s : String) : String :=
  String.ofList (Chars.stripAccents s.toList)

end SpecPrompt
