import InfixCalculator.Fault

/-!
# Tokens

A token is a number or a symbol, together with the offset at which it stands.  A stream
of tokens may break off with a fault; the tokens before the fault are delivered first,
so a reader of the stream can fail earlier for reasons of its own.
-/

namespace InfixCalculator

/-- A number or a symbol of an expression, with its offset. -/
inductive Token where
  | number (value : Int) (position : Int)
  | symbol (symbol : String) (position : Int)
deriving DecidableEq, Repr

/-- Where a token stands in its text. -/
def Token.position : Token → Int
  | number _ position => position
  | symbol _ position => position

/-- Tokens in order, delivered one by one, and how they end. -/
inductive TokenStream where
  | done
  /-- What follows is no token. -/
  | failed (fault : Fault)
  | token (first : Token) (rest : TokenStream)
deriving Repr

namespace TokenStream

/-- The stream that delivers a list of tokens and no fault. -/
def ofList : List Token → TokenStream
  | [] => done
  | first :: rest => token first (ofList rest)

/-- The tokens of a stream up to its end or to where it breaks off. -/
def tokens : TokenStream → List Token
  | done => []
  | failed _ => []
  | token first rest => first :: rest.tokens

/-- The fault with which a stream breaks off, if it does. -/
def fault? : TokenStream → Option Fault
  | done => none
  | failed fault => some fault
  | token _ rest => rest.fault?

@[simp] theorem tokens_ofList (tokens : List Token) : (ofList tokens).tokens = tokens := by
  induction tokens with
  | nil => rfl
  | cons first rest ih => simp [ofList, TokenStream.tokens, ih]

@[simp] theorem fault?_ofList (tokens : List Token) : (ofList tokens).fault? = none := by
  induction tokens with
  | nil => rfl
  | cons first rest ih => simp [ofList, fault?, ih]

/-- A stream that does not break off is the stream of its tokens. -/
theorem ofList_tokens {stream : TokenStream} (complete : stream.fault? = none) :
    ofList stream.tokens = stream := by
  induction stream with
  | done => rfl
  | failed fault => simp [fault?] at complete
  | token first rest ih => rw [tokens, ofList, ih complete]

end TokenStream

end InfixCalculator
