import TextWalk.Proofs.Reading

namespace TextWalk

inductive Pass where
  | upTo (occurrence : Code) (escaped : Bool)
  | upToBlankOr (set : List Code)
  | through (occurrence : Code) (escaped : Bool)
  | throughBlankOr (set : List Code)
  | throughBlank
deriving DecidableEq, Repr

namespace Pass

def run (b : Buffer) : Pass → List Code × Buffer
  | upTo c escaped => b.readUntilBefore c escaped
  | upToBlankOr set => b.readUntilBeforeBlankOr set
  | through c escaped => ((b.readUntil c escaped).1, (b.readUntil c escaped).2.next)
  | throughBlankOr set => ((b.readUntilBlankOr set).1, (b.readUntilBlankOr set).2.next)
  | throughBlank => (b.readUntilBlankOrEnd.1, b.readUntilBlankOrEnd.2.next)

end Pass

theorem Code.text_append (cs ds : List Code) :
    Code.text (cs ++ ds) = Code.text cs ++ Code.text ds := by
  simp only [Code.text, List.map_append, String.ofList_append]

namespace Buffer

end Buffer

end TextWalk
