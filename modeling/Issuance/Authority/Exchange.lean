namespace Issuance

/-- An exchange is settled at once, or it asks a question and goes by the answer. -/
inductive Exchange (Question Answer Fault Result : Type) where
  | settled (result : Except Fault Result)
  | ask (question : Question) (conclude : Answer → Except Fault Result)

namespace Exchange

def question? : Exchange Question Answer Fault Result → Option Question
  | settled _ => none
  | ask question _ => some question

/-- The result of an exchange when questions get the given answer. -/
def conclude (answer : Answer) : Exchange Question Answer Fault Result → Except Fault Result
  | settled result => result
  | ask _ conclude => conclude answer

end Exchange

end Issuance
