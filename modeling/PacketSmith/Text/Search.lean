/-!
# Looking for a text inside a text

Cutting a list of characters at the first or the last place where a given text stands. The
cut loses nothing: the parts and the text looked for, put together again, are the list.
-/

namespace PacketSmith.Text

/-- What is left of a text behind a given beginning, if it begins so. -/
def afterPrefix? : List Char → List Char → Option (List Char)
  | [], text => some text
  | _ :: _, [] => none
  | expected :: remaining, character :: text =>
    if expected == character then afterPrefix? remaining text else none

/-- What is left of a text in front of a given ending, if it ends so. -/
def beforeSuffix? (ending text : List Char) : Option (List Char) :=
  (afterPrefix? ending.reverse text.reverse).map List.reverse

/-- The parts before and after the first place where `mark` stands. -/
def cutAt? (mark : List Char) : List Char → Option (List Char × List Char)
  | [] => if mark.isEmpty then some ([], []) else none
  | character :: text =>
    match afterPrefix? mark (character :: text) with
    | some after => some ([], after)
    | none => (cutAt? mark text).map fun (before, after) => (character :: before, after)

/-- The part behind the last place where `mark` stands, or the whole text if there is none. -/
def afterLast (mark : List Char) : List Char → List Char
  | [] => []
  | character :: text =>
    match afterPrefix? mark (character :: text), cutAt? mark text with
    | _, some _ => afterLast mark text
    | some after, none => after
    | none, none => character :: text

/-- The pieces of a text between the characters that satisfy `separates`. -/
def splitWhere (separates : Char → Bool) : List Char → List (List Char)
  | [] => [[]]
  | character :: text =>
    match splitWhere separates text with
    | [] => [[character]]
    | piece :: pieces =>
      if separates character then [] :: piece :: pieces else (character :: piece) :: pieces

/-- The pieces of texts put together with a text between each two of them. -/
def joinWith (between : String) : List String → String
  | [] => ""
  | [piece] => piece
  | piece :: next :: pieces => piece ++ between ++ joinWith between (next :: pieces)

end PacketSmith.Text
