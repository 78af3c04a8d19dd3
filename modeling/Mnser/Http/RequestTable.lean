import Mathlib.Data.List.GetD
import Mnser.Framework.Scanner

/-! # The request scanner

    The state machine generated from `http11_parser.rl`.  A row lists, for a
    state, the ranges of bytes and where `switch( (*p) )` goes for them; a
    byte in none of them leads to `st0`. -/

namespace MNSER

namespace Http

namespace HttpParser

open Scanner

/-! ## Section 1: Actions -/

inductive Reg where
  | mark
  | field_start
  | field_len
  | query_start
  deriving DecidableEq

/-- The length in `field_len` is measured from `field_start`. -/
def origin : Reg → Option Reg
  | .field_len => some .field_start
  | _          => none

inductive Callback where
  | http_field
  | request_method
  | request_uri
  | fragment
  | query_string
  | http_version
  | request_path
  | done
  | xml
  | json
  deriving DecidableEq

abbrev Action : Type := Act Reg Callback

def mark : Action           := .mark .mark
def start_field : Action    := .mark .field_start
def write_field : Action    := .measure .field_len
def start_value : Action    := .mark .mark
def write_value : Action    := .call .http_field
def request_method : Action := .call .request_method
def request_uri : Action    := .call .request_uri
def fragment : Action       := .call .fragment
def start_query : Action    := .mark .query_start
def query_string : Action   := .call .query_string
def http_version : Action   := .call .http_version
def request_path : Action   := .call .request_path
def done : Action           := .call .done
def xml : Action            := .call .xml
def json : Action           := .call .json

/-! ## Section 2: Transitions -/

def http_parser_start : Nat := 1
def http_parser_first_final : Nat := 348
def http_parser_error : Nat := 0

/-- `goto st..` or `goto tr..` -/
inductive Goto where
  | st (n : Nat)
  | tr (k : Nat)
  deriving DecidableEq

abbrev Row : Type := List (Nat × Nat × Goto)

def tr : Nat → Step Nat Action
  | 0 => .next 2 [mark]
  | 2 => .next 194 [mark]
  | 3 => .next 198 [mark]
  | 4 => .next 3 [request_method]
  | 6 => .next 4 [mark, request_path, request_uri]
  | 7 => .next 19 [mark]
  | 8 => .next 20 [mark, request_path, request_uri]
  | 9 => .next 24 [mark]
  | 10 => .next 33 [mark]
  | 11 => .next 29 [mark, request_path]
  | 12 => .next 173 [mark]
  | 13 => .next 5 [mark]
  | 21 => .next 13 [http_version]
  | 22 => .next 17 [http_version]
  | 23 => .next 14 [start_field]
  | 24 => .last 348 [start_field, done]
  | 25 => .next 18 [start_field]
  | 27 => .next 15 [write_field]
  | 28 => .next 16 [start_value]
  | 29 => .next 15 [start_value]
  | 30 => .next 13 [start_value, write_value]
  | 31 => .next 17 [start_value, write_value]
  | 33 => .next 13 [write_value]
  | 34 => .next 17 [write_value]
  | 36 => .last 348 [done]
  | 37 => .next 4 [request_path, request_uri]
  | 39 => .next 20 [request_path, request_uri]
  | 42 => .next 29 [request_path]
  | 43 => .next 21 [mark]
  | 44 => .next 4 [mark, fragment]
  | 45 => .next 22 [mark]
  | 47 => .next 4 [fragment]
  | 53 => .next 30 [start_query]
  | 54 => .next 4 [start_query, query_string, request_uri]
  | 55 => .next 20 [start_query, query_string, request_uri]
  | 56 => .next 31 [start_query]
  | 58 => .next 4 [query_string, request_uri]
  | 59 => .next 20 [query_string, request_uri]
  | 203 => .next 26 [mark]
  | 204 => .next 27 [mark]
  | 224 => .next 196 [request_path]
  | 227 => .last 349 [xml, done]
  | 228 => .next 199 [request_path]
  | 232 => .next 200 [mark]
  | 235 => .last 349 [json, done]
  | _ => .fail 0

def rows0 : List Row := [
  /- 0 -/ [],
  /- 1 -/ [(48, 57, .tr 0), (60, 60, .tr 2), (64, 64, .tr 3), (65, 90, .tr 0)],
  /- 2 -/ [(32, 32, .tr 4), (48, 57, .st 175), (65, 90, .st 175)],
  /- 3 -/ [(32, 32, .tr 6), (33, 33, .tr 7), (35, 35, .tr 8), (36, 36, .tr 7), (37, 37, .tr 9),
     (38, 46, .tr 7), (47, 47, .tr 10), (48, 57, .tr 7), (59, 59, .tr 7), (61, 61, .tr 7),
     (63, 63, .tr 11), (64, 64, .tr 7), (65, 90, .tr 12), (95, 95, .tr 7), (97, 122, .tr 12),
     (126, 126, .tr 7)],
  /- 4 -/ [(72, 72, .tr 13)],
  /- 5 -/ [(84, 84, .st 6)],
  /- 6 -/ [(84, 84, .st 7)],
  /- 7 -/ [(80, 80, .st 8)],
  /- 8 -/ [(47, 47, .st 9)],
  /- 9 -/ [(49, 49, .st 10)],
  /- 10 -/ [(46, 46, .st 11)],
  /- 11 -/ [(48, 49, .st 12)],
  /- 12 -/ [(10, 10, .tr 21), (13, 13, .tr 22)],
  /- 13 -/ [(1, 8, .tr 23), (10, 10, .tr 24), (11, 12, .tr 23), (13, 13, .tr 25),
     (14, 31, .tr 23), (33, 33, .tr 23), (35, 39, .tr 23), (42, 43, .tr 23), (45, 46, .tr 23),
     (48, 57, .tr 23), (65, 90, .tr 23), (94, 122, .tr 23), (124, 124, .tr 23),
     (126, 126, .tr 23)],
  /- 14 -/ [(1, 8, .st 14), (10, 31, .st 14), (33, 33, .st 14), (35, 39, .st 14),
     (42, 43, .st 14), (45, 46, .st 14), (48, 57, .st 14), (58, 58, .tr 27), (65, 90, .st 14),
     (94, 122, .st 14), (124, 124, .st 14), (126, 126, .st 14)],
  /- 15 -/ [(1, 8, .tr 28), (9, 9, .tr 29), (10, 10, .tr 30), (11, 12, .tr 28),
     (13, 13, .tr 31), (14, 31, .tr 28), (32, 32, .tr 29), (33, 126, .tr 28),
     (128, 255, .tr 28)],
  /- 16 -/ [(1, 9, .st 16), (10, 10, .tr 33), (11, 12, .st 16), (13, 13, .tr 34),
     (14, 126, .st 16), (128, 255, .st 16)],
  /- 17 -/ [(10, 10, .st 13)],
  /- 18 -/ [(1, 8, .st 14), (10, 10, .tr 36), (11, 31, .st 14), (33, 33, .st 14),
     (35, 39, .st 14), (42, 43, .st 14), (45, 46, .st 14), (48, 57, .st 14), (58, 58, .tr 27),
     (65, 90, .st 14), (94, 122, .st 14), (124, 124, .st 14), (126, 126, .st 14)],
  /- 19 -/ [(32, 32, .tr 37), (33, 33, .st 19), (35, 35, .tr 39), (36, 36, .st 19),
     (37, 37, .st 24), (38, 46, .st 19), (47, 47, .st 26), (48, 57, .st 19), (59, 59, .st 19),
     (61, 61, .st 19), (63, 63, .tr 42), (64, 90, .st 19), (95, 95, .st 19), (97, 122, .st 19),
     (126, 126, .st 19)],
  /- 20 -/ [(32, 32, .tr 44), (33, 33, .tr 43), (36, 36, .tr 43), (37, 37, .tr 45),
     (38, 59, .tr 43), (61, 61, .tr 43), (63, 90, .tr 43), (95, 95, .tr 43), (97, 122, .tr 43),
     (126, 126, .tr 43), (128, 255, .tr 43)],
  /- 21 -/ [(32, 32, .tr 47), (33, 33, .st 21), (36, 36, .st 21), (37, 37, .st 22),
     (38, 59, .st 21), (61, 61, .st 21), (63, 90, .st 21), (95, 95, .st 21), (97, 122, .st 21),
     (126, 126, .st 21), (128, 255, .st 21)],
  /- 22 -/ [(48, 57, .st 23), (65, 70, .st 23), (97, 102, .st 23)],
  /- 23 -/ [(48, 57, .st 21), (65, 70, .st 21), (97, 102, .st 21)],
  /- 24 -/ [(48, 57, .st 25), (65, 70, .st 25), (97, 102, .st 25)],
  /- 25 -/ [(48, 57, .st 19), (65, 70, .st 19), (97, 102, .st 19)],
  /- 26 -/ [(32, 32, .tr 37), (33, 33, .st 26), (35, 35, .tr 39), (36, 36, .st 26),
     (37, 37, .st 27), (38, 59, .st 26), (61, 61, .st 26), (63, 63, .tr 42), (64, 90, .st 26),
     (95, 95, .st 26), (97, 122, .st 26), (126, 126, .st 26), (128, 255, .st 26)],
  /- 27 -/ [(48, 57, .st 28), (65, 70, .st 28), (97, 102, .st 28)],
  /- 28 -/ [(48, 57, .st 26), (65, 70, .st 26), (97, 102, .st 26)],
  /- 29 -/ [(32, 32, .tr 54), (33, 33, .tr 53), (35, 35, .tr 55), (36, 36, .tr 53),
     (37, 37, .tr 56), (38, 59, .tr 53), (61, 61, .tr 53), (63, 90, .tr 53), (95, 95, .tr 53),
     (97, 122, .tr 53), (126, 126, .tr 53), (128, 255, .tr 53)],
  /- 30 -/ [(32, 32, .tr 58), (33, 33, .st 30), (35, 35, .tr 59), (36, 36, .st 30),
     (37, 37, .st 31), (38, 59, .st 30), (61, 61, .st 30), (63, 90, .st 30), (95, 95, .st 30),
     (97, 122, .st 30), (126, 126, .st 30), (128, 255, .st 30)],
  /- 31 -/ [(48, 57, .st 32), (65, 70, .st 32), (97, 102, .st 32)],
  /- 32 -/ [(48, 57, .st 30), (65, 70, .st 30), (97, 102, .st 30)],
  /- 33 -/ [(32, 32, .tr 37), (33, 33, .st 26), (35, 35, .tr 39), (36, 36, .st 26),
     (37, 37, .st 27), (38, 46, .st 26), (47, 47, .st 34), (48, 59, .st 26), (61, 61, .st 26),
     (63, 63, .tr 42), (64, 90, .st 26), (95, 95, .st 26), (97, 122, .st 26),
     (126, 126, .st 26), (128, 255, .st 26)],
  /- 34 -/ [(32, 32, .tr 37), (33, 33, .st 35), (35, 35, .tr 39), (36, 36, .st 35),
     (37, 37, .st 36), (38, 46, .st 35), (47, 47, .st 26), (48, 57, .st 35), (58, 58, .st 38),
     (59, 59, .st 35), (61, 61, .st 35), (63, 63, .tr 42), (64, 64, .st 42), (65, 90, .st 35),
     (91, 91, .st 47), (95, 95, .st 35), (97, 122, .st 35), (126, 126, .st 35)],
  /- 35 -/ [(32, 32, .tr 37), (33, 33, .st 35), (35, 35, .tr 39), (36, 36, .st 35),
     (37, 37, .st 36), (38, 46, .st 35), (47, 47, .st 26), (48, 57, .st 35), (58, 58, .st 38),
     (59, 59, .st 35), (61, 61, .st 35), (63, 63, .tr 42), (64, 64, .st 42), (65, 90, .st 35),
     (95, 95, .st 35), (97, 122, .st 35), (126, 126, .st 35)],
  /- 36 -/ [(48, 57, .st 37), (65, 70, .st 37), (97, 102, .st 37)],
  /- 37 -/ [(48, 57, .st 35), (65, 70, .st 35), (97, 102, .st 35)],
  /- 38 -/ [(32, 32, .tr 37), (33, 33, .st 39), (35, 35, .tr 39), (36, 36, .st 39),
     (37, 37, .st 40), (38, 46, .st 39), (47, 47, .st 26), (48, 57, .st 38), (58, 59, .st 39),
     (61, 61, .st 39), (63, 63, .tr 42), (64, 64, .st 42), (65, 90, .st 39), (95, 95, .st 39),
     (97, 122, .st 39), (126, 126, .st 39)],
  /- 39 -/ [(33, 33, .st 39), (36, 36, .st 39), (37, 37, .st 40), (38, 46, .st 39),
     (48, 59, .st 39), (61, 61, .st 39), (64, 64, .st 42), (65, 90, .st 39), (95, 95, .st 39),
     (97, 122, .st 39), (126, 126, .st 39)],
  /- 40 -/ [(48, 57, .st 41), (65, 70, .st 41), (97, 102, .st 41)],
  /- 41 -/ [(48, 57, .st 39), (65, 70, .st 39), (97, 102, .st 39)],
  /- 42 -/ [(32, 32, .tr 37), (33, 33, .st 43), (35, 35, .tr 39), (36, 36, .st 43),
     (37, 37, .st 44), (38, 46, .st 43), (47, 47, .st 26), (48, 57, .st 43), (58, 58, .st 46),
     (59, 59, .st 43), (61, 61, .st 43), (63, 63, .tr 42), (65, 90, .st 43), (91, 91, .st 47),
     (95, 95, .st 43), (97, 122, .st 43), (126, 126, .st 43)],
  /- 43 -/ [(32, 32, .tr 37), (33, 33, .st 43), (35, 35, .tr 39), (36, 36, .st 43),
     (37, 37, .st 44), (38, 46, .st 43), (47, 47, .st 26), (48, 57, .st 43), (58, 58, .st 46),
     (59, 59, .st 43), (61, 61, .st 43), (63, 63, .tr 42), (65, 90, .st 43), (95, 95, .st 43),
     (97, 122, .st 43), (126, 126, .st 43)],
  /- 44 -/ [(48, 57, .st 45), (65, 70, .st 45), (97, 102, .st 45)],
  /- 45 -/ [(48, 57, .st 43), (65, 70, .st 43), (97, 102, .st 43)],
  /- 46 -/ [(32, 32, .tr 37), (35, 35, .tr 39), (47, 47, .st 26), (48, 57, .st 46),
     (63, 63, .tr 42)],
  /- 47 -/ [(6, 6, .st 48), (48, 57, .st 91), (58, 58, .st 167), (65, 70, .st 91),
     (97, 102, .st 91), (118, 118, .st 169)],
  /- 48 -/ [(48, 57, .st 49), (65, 70, .st 49), (97, 102, .st 49)],
  /- 49 -/ [(48, 57, .st 50), (58, 58, .st 53), (65, 70, .st 50), (97, 102, .st 50)]]

def rows1 : List Row := [
  /- 50 -/ [(48, 57, .st 51), (58, 58, .st 53), (65, 70, .st 51), (97, 102, .st 51)],
  /- 51 -/ [(48, 57, .st 52), (58, 58, .st 53), (65, 70, .st 52), (97, 102, .st 52)],
  /- 52 -/ [(58, 58, .st 53)],
  /- 53 -/ [(48, 48, .st 54), (49, 49, .st 84), (50, 50, .st 87), (51, 57, .st 54),
     (65, 70, .st 90), (97, 102, .st 90)],
  /- 54 -/ [(46, 46, .st 55), (48, 57, .st 77), (58, 58, .st 80), (65, 70, .st 77),
     (97, 102, .st 77)],
  /- 55 -/ [(48, 48, .st 56), (49, 49, .st 72), (50, 50, .st 74), (51, 57, .st 56)],
  /- 56 -/ [(46, 46, .st 57)],
  /- 57 -/ [(48, 48, .st 58), (49, 49, .st 67), (50, 50, .st 69), (51, 57, .st 58)],
  /- 58 -/ [(46, 46, .st 59)],
  /- 59 -/ [(48, 48, .st 60), (49, 49, .st 62), (50, 50, .st 64), (51, 57, .st 60)],
  /- 60 -/ [(93, 93, .st 61)],
  /- 61 -/ [(32, 32, .tr 37), (35, 35, .tr 39), (47, 47, .st 26), (58, 58, .st 46),
     (63, 63, .tr 42)],
  /- 62 -/ [(48, 57, .st 63), (93, 93, .st 61)],
  /- 63 -/ [(48, 57, .st 60), (93, 93, .st 61)],
  /- 64 -/ [(48, 48, .st 65), (53, 53, .st 66), (93, 93, .st 61)],
  /- 65 -/ [(48, 57, .st 60)],
  /- 66 -/ [(48, 48, .st 60)],
  /- 67 -/ [(46, 46, .st 59), (48, 57, .st 68)],
  /- 68 -/ [(46, 46, .st 59), (48, 57, .st 58)],
  /- 69 -/ [(46, 46, .st 59), (48, 48, .st 70), (53, 53, .st 71)],
  /- 70 -/ [(48, 57, .st 58)],
  /- 71 -/ [(48, 48, .st 58)],
  /- 72 -/ [(46, 46, .st 57), (48, 57, .st 73)],
  /- 73 -/ [(46, 46, .st 57), (48, 57, .st 56)],
  /- 74 -/ [(46, 46, .st 57), (48, 48, .st 75), (53, 53, .st 76)],
  /- 75 -/ [(48, 57, .st 56)],
  /- 76 -/ [(48, 48, .st 56)],
  /- 77 -/ [(48, 57, .st 78), (58, 58, .st 80), (65, 70, .st 78), (97, 102, .st 78)],
  /- 78 -/ [(48, 57, .st 79), (58, 58, .st 80), (65, 70, .st 79), (97, 102, .st 79)],
  /- 79 -/ [(58, 58, .st 80)],
  /- 80 -/ [(48, 57, .st 81), (65, 70, .st 81), (97, 102, .st 81)],
  /- 81 -/ [(48, 57, .st 82), (65, 70, .st 82), (93, 93, .st 61), (97, 102, .st 82)],
  /- 82 -/ [(48, 57, .st 83), (65, 70, .st 83), (93, 93, .st 61), (97, 102, .st 83)],
  /- 83 -/ [(48, 57, .st 60), (65, 70, .st 60), (93, 93, .st 61), (97, 102, .st 60)],
  /- 84 -/ [(46, 46, .st 55), (48, 57, .st 85), (58, 58, .st 80), (65, 70, .st 77),
     (97, 102, .st 77)],
  /- 85 -/ [(46, 46, .st 55), (48, 57, .st 86), (58, 58, .st 80), (65, 70, .st 78),
     (97, 102, .st 78)],
  /- 86 -/ [(46, 46, .st 55), (48, 57, .st 79), (58, 58, .st 80), (65, 70, .st 79),
     (97, 102, .st 79)],
  /- 87 -/ [(46, 46, .st 55), (48, 48, .st 88), (49, 52, .st 77), (53, 53, .st 89),
     (54, 57, .st 77), (58, 58, .st 80), (65, 70, .st 77), (97, 102, .st 77)],
  /- 88 -/ [(48, 57, .st 86), (58, 58, .st 80), (65, 70, .st 78), (97, 102, .st 78)],
  /- 89 -/ [(48, 48, .st 86), (49, 57, .st 78), (58, 58, .st 80), (65, 70, .st 78),
     (97, 102, .st 78)],
  /- 90 -/ [(48, 57, .st 77), (58, 58, .st 80), (65, 70, .st 77), (97, 102, .st 77)],
  /- 91 -/ [(48, 57, .st 92), (58, 58, .st 95), (65, 70, .st 92), (97, 102, .st 92)],
  /- 92 -/ [(48, 57, .st 93), (58, 58, .st 95), (65, 70, .st 93), (97, 102, .st 93)],
  /- 93 -/ [(48, 57, .st 94), (58, 58, .st 95), (65, 70, .st 94), (97, 102, .st 94)],
  /- 94 -/ [(58, 58, .st 95)],
  /- 95 -/ [(48, 57, .st 96), (58, 58, .st 166), (65, 70, .st 96), (97, 102, .st 96)],
  /- 96 -/ [(48, 57, .st 97), (58, 58, .st 100), (65, 70, .st 97), (97, 102, .st 97)],
  /- 97 -/ [(48, 57, .st 98), (58, 58, .st 100), (65, 70, .st 98), (97, 102, .st 98)],
  /- 98 -/ [(48, 57, .st 99), (58, 58, .st 100), (65, 70, .st 99), (97, 102, .st 99)],
  /- 99 -/ [(58, 58, .st 100)]]

def rows2 : List Row := [
  /- 100 -/ [(48, 57, .st 101), (58, 58, .st 165), (65, 70, .st 101), (97, 102, .st 101)],
  /- 101 -/ [(48, 57, .st 102), (58, 58, .st 105), (65, 70, .st 102), (97, 102, .st 102)],
  /- 102 -/ [(48, 57, .st 103), (58, 58, .st 105), (65, 70, .st 103), (97, 102, .st 103)],
  /- 103 -/ [(48, 57, .st 104), (58, 58, .st 105), (65, 70, .st 104), (97, 102, .st 104)],
  /- 104 -/ [(58, 58, .st 105)],
  /- 105 -/ [(48, 57, .st 106), (58, 58, .st 164), (65, 70, .st 106), (97, 102, .st 106)],
  /- 106 -/ [(48, 57, .st 107), (58, 58, .st 110), (65, 70, .st 107), (97, 102, .st 107)],
  /- 107 -/ [(48, 57, .st 108), (58, 58, .st 110), (65, 70, .st 108), (97, 102, .st 108)],
  /- 108 -/ [(48, 57, .st 109), (58, 58, .st 110), (65, 70, .st 109), (97, 102, .st 109)],
  /- 109 -/ [(58, 58, .st 110)],
  /- 110 -/ [(48, 57, .st 111), (58, 58, .st 163), (65, 70, .st 111), (97, 102, .st 111)],
  /- 111 -/ [(48, 57, .st 112), (58, 58, .st 115), (65, 70, .st 112), (97, 102, .st 112)],
  /- 112 -/ [(48, 57, .st 113), (58, 58, .st 115), (65, 70, .st 113), (97, 102, .st 113)],
  /- 113 -/ [(48, 57, .st 114), (58, 58, .st 115), (65, 70, .st 114), (97, 102, .st 114)],
  /- 114 -/ [(58, 58, .st 115)],
  /- 115 -/ [(48, 57, .st 116), (58, 58, .st 151), (65, 70, .st 116), (97, 102, .st 116)],
  /- 116 -/ [(48, 57, .st 117), (58, 58, .st 120), (65, 70, .st 117), (97, 102, .st 117)],
  /- 117 -/ [(48, 57, .st 118), (58, 58, .st 120), (65, 70, .st 118), (97, 102, .st 118)],
  /- 118 -/ [(48, 57, .st 119), (58, 58, .st 120), (65, 70, .st 119), (97, 102, .st 119)],
  /- 119 -/ [(58, 58, .st 120)],
  /- 120 -/ [(48, 57, .st 121), (58, 58, .st 150), (65, 70, .st 121), (97, 102, .st 121)],
  /- 121 -/ [(48, 57, .st 122), (58, 58, .st 125), (65, 70, .st 122), (97, 102, .st 122)],
  /- 122 -/ [(48, 57, .st 123), (58, 58, .st 125), (65, 70, .st 123), (97, 102, .st 123)],
  /- 123 -/ [(48, 57, .st 124), (58, 58, .st 125), (65, 70, .st 124), (97, 102, .st 124)],
  /- 124 -/ [(58, 58, .st 125)],
  /- 125 -/ [(48, 57, .st 121), (58, 58, .st 126), (65, 70, .st 121), (97, 102, .st 121)],
  /- 126 -/ [(2, 3, .st 48), (48, 48, .st 127), (49, 49, .st 143), (50, 50, .st 146),
     (51, 57, .st 127), (65, 70, .st 149), (93, 93, .st 61), (97, 102, .st 149)],
  /- 127 -/ [(46, 46, .st 55), (48, 57, .st 128), (58, 58, .st 131), (65, 70, .st 128),
     (93, 93, .st 61), (97, 102, .st 128)],
  /- 128 -/ [(48, 57, .st 129), (58, 58, .st 131), (65, 70, .st 129), (93, 93, .st 61),
     (97, 102, .st 129)],
  /- 129 -/ [(48, 57, .st 130), (58, 58, .st 131), (65, 70, .st 130), (93, 93, .st 61),
     (97, 102, .st 130)],
  /- 130 -/ [(58, 58, .st 131), (93, 93, .st 61)],
  /- 131 -/ [(48, 48, .st 132), (49, 49, .st 136), (50, 50, .st 139), (51, 57, .st 132),
     (65, 70, .st 142), (97, 102, .st 142)],
  /- 132 -/ [(46, 46, .st 55), (48, 57, .st 133), (58, 58, .st 80), (65, 70, .st 133),
     (93, 93, .st 61), (97, 102, .st 133)],
  /- 133 -/ [(48, 57, .st 134), (58, 58, .st 80), (65, 70, .st 134), (93, 93, .st 61),
     (97, 102, .st 134)],
  /- 134 -/ [(48, 57, .st 135), (58, 58, .st 80), (65, 70, .st 135), (93, 93, .st 61),
     (97, 102, .st 135)],
  /- 135 -/ [(58, 58, .st 80), (93, 93, .st 61)],
  /- 136 -/ [(46, 46, .st 55), (48, 57, .st 137), (58, 58, .st 80), (65, 70, .st 133),
     (93, 93, .st 61), (97, 102, .st 133)],
  /- 137 -/ [(46, 46, .st 55), (48, 57, .st 138), (58, 58, .st 80), (65, 70, .st 134),
     (93, 93, .st 61), (97, 102, .st 134)],
  /- 138 -/ [(46, 46, .st 55), (48, 57, .st 135), (58, 58, .st 80), (65, 70, .st 135),
     (93, 93, .st 61), (97, 102, .st 135)],
  /- 139 -/ [(46, 46, .st 55), (48, 48, .st 140), (49, 52, .st 133), (53, 53, .st 141),
     (54, 57, .st 133), (58, 58, .st 80), (65, 70, .st 133), (93, 93, .st 61),
     (97, 102, .st 133)],
  /- 140 -/ [(48, 57, .st 138), (58, 58, .st 80), (65, 70, .st 134), (93, 93, .st 61),
     (97, 102, .st 134)],
  /- 141 -/ [(48, 48, .st 138), (49, 57, .st 134), (58, 58, .st 80), (65, 70, .st 134),
     (93, 93, .st 61), (97, 102, .st 134)],
  /- 142 -/ [(48, 57, .st 133), (58, 58, .st 80), (65, 70, .st 133), (93, 93, .st 61),
     (97, 102, .st 133)],
  /- 143 -/ [(46, 46, .st 55), (48, 57, .st 144), (58, 58, .st 131), (65, 70, .st 128),
     (93, 93, .st 61), (97, 102, .st 128)],
  /- 144 -/ [(46, 46, .st 55), (48, 57, .st 145), (58, 58, .st 131), (65, 70, .st 129),
     (93, 93, .st 61), (97, 102, .st 129)],
  /- 145 -/ [(46, 46, .st 55), (48, 57, .st 130), (58, 58, .st 131), (65, 70, .st 130),
     (93, 93, .st 61), (97, 102, .st 130)],
  /- 146 -/ [(46, 46, .st 55), (48, 48, .st 147), (49, 52, .st 128), (53, 53, .st 148),
     (54, 57, .st 128), (58, 58, .st 131), (65, 70, .st 128), (93, 93, .st 61),
     (97, 102, .st 128)],
  /- 147 -/ [(48, 57, .st 145), (58, 58, .st 131), (65, 70, .st 129), (93, 93, .st 61),
     (97, 102, .st 129)],
  /- 148 -/ [(48, 48, .st 145), (49, 57, .st 129), (58, 58, .st 131), (65, 70, .st 129),
     (93, 93, .st 61), (97, 102, .st 129)],
  /- 149 -/ [(48, 57, .st 128), (58, 58, .st 131), (65, 70, .st 128), (93, 93, .st 61),
     (97, 102, .st 128)]]

def rows3 : List Row := [
  /- 150 -/ [(2, 3, .st 48), (48, 48, .st 127), (49, 49, .st 143), (50, 50, .st 146),
     (51, 57, .st 127), (65, 70, .st 149), (97, 102, .st 149)],
  /- 151 -/ [(2, 3, .st 48), (48, 48, .st 152), (49, 49, .st 156), (50, 50, .st 159),
     (51, 57, .st 152), (65, 70, .st 162), (97, 102, .st 162)],
  /- 152 -/ [(46, 46, .st 55), (48, 57, .st 153), (58, 58, .st 131), (65, 70, .st 153),
     (97, 102, .st 153)],
  /- 153 -/ [(48, 57, .st 154), (58, 58, .st 131), (65, 70, .st 154), (97, 102, .st 154)],
  /- 154 -/ [(48, 57, .st 155), (58, 58, .st 131), (65, 70, .st 155), (97, 102, .st 155)],
  /- 155 -/ [(58, 58, .st 131)],
  /- 156 -/ [(46, 46, .st 55), (48, 57, .st 157), (58, 58, .st 131), (65, 70, .st 153),
     (97, 102, .st 153)],
  /- 157 -/ [(46, 46, .st 55), (48, 57, .st 158), (58, 58, .st 131), (65, 70, .st 154),
     (97, 102, .st 154)],
  /- 158 -/ [(46, 46, .st 55), (48, 57, .st 155), (58, 58, .st 131), (65, 70, .st 155),
     (97, 102, .st 155)],
  /- 159 -/ [(46, 46, .st 55), (48, 48, .st 160), (49, 52, .st 153), (53, 53, .st 161),
     (54, 57, .st 153), (58, 58, .st 131), (65, 70, .st 153), (97, 102, .st 153)],
  /- 160 -/ [(48, 57, .st 158), (58, 58, .st 131), (65, 70, .st 154), (97, 102, .st 154)],
  /- 161 -/ [(48, 48, .st 158), (49, 57, .st 154), (58, 58, .st 131), (65, 70, .st 154),
     (97, 102, .st 154)],
  /- 162 -/ [(48, 57, .st 153), (58, 58, .st 131), (65, 70, .st 153), (97, 102, .st 153)],
  /- 163 -/ [(2, 3, .st 48), (48, 57, .st 49), (65, 70, .st 49), (97, 102, .st 49)],
  /- 164 -/ [(2, 3, .st 48)],
  /- 165 -/ [(3, 3, .st 48)],
  /- 166 -/ [(4, 4, .st 48)],
  /- 167 -/ [(58, 58, .st 168)],
  /- 168 -/ [(2, 5, .st 48), (48, 48, .st 127), (49, 49, .st 143), (50, 50, .st 146),
     (51, 57, .st 127), (65, 70, .st 149), (93, 93, .st 61), (97, 102, .st 149)],
  /- 169 -/ [(48, 57, .st 170), (65, 70, .st 170), (97, 102, .st 170)],
  /- 170 -/ [(46, 46, .st 171), (48, 57, .st 170), (65, 70, .st 170), (97, 102, .st 170)],
  /- 171 -/ [(33, 33, .st 172), (36, 36, .st 172), (38, 46, .st 172), (48, 59, .st 172),
     (61, 61, .st 172), (65, 90, .st 172), (95, 95, .st 172), (97, 122, .st 172),
     (126, 126, .st 172)],
  /- 172 -/ [(33, 33, .st 172), (36, 36, .st 172), (38, 46, .st 172), (48, 59, .st 172),
     (61, 61, .st 172), (65, 90, .st 172), (93, 93, .st 61), (95, 95, .st 172),
     (97, 122, .st 172), (126, 126, .st 172)],
  /- 173 -/ [(32, 32, .tr 37), (33, 33, .st 19), (35, 35, .tr 39), (36, 36, .st 19),
     (37, 37, .st 24), (38, 42, .st 19), (43, 43, .st 173), (44, 44, .st 19), (45, 46, .st 173),
     (47, 47, .st 26), (48, 57, .st 173), (58, 58, .st 174), (59, 59, .st 19), (61, 61, .st 19),
     (63, 63, .tr 42), (64, 64, .st 19), (65, 90, .st 173), (95, 95, .st 19),
     (97, 122, .st 173), (126, 126, .st 19)],
  /- 174 -/ [(32, 32, .tr 6), (33, 33, .tr 203), (35, 35, .tr 8), (36, 36, .tr 203),
     (37, 37, .tr 204), (38, 46, .tr 203), (47, 47, .tr 10), (48, 59, .tr 203),
     (61, 61, .tr 203), (63, 63, .tr 11), (64, 90, .tr 203), (95, 95, .tr 203),
     (97, 122, .tr 203), (126, 126, .tr 203), (128, 255, .tr 203)],
  /- 175 -/ [(32, 32, .tr 4), (48, 57, .st 176), (65, 90, .st 176)],
  /- 176 -/ [(32, 32, .tr 4), (48, 57, .st 177), (65, 90, .st 177)],
  /- 177 -/ [(32, 32, .tr 4), (48, 57, .st 178), (65, 90, .st 178)],
  /- 178 -/ [(32, 32, .tr 4), (48, 57, .st 179), (65, 90, .st 179)],
  /- 179 -/ [(32, 32, .tr 4), (48, 57, .st 180), (65, 90, .st 180)],
  /- 180 -/ [(32, 32, .tr 4), (48, 57, .st 181), (65, 90, .st 181)],
  /- 181 -/ [(32, 32, .tr 4), (48, 57, .st 182), (65, 90, .st 182)],
  /- 182 -/ [(32, 32, .tr 4), (48, 57, .st 183), (65, 90, .st 183)],
  /- 183 -/ [(32, 32, .tr 4), (48, 57, .st 184), (65, 90, .st 184)],
  /- 184 -/ [(32, 32, .tr 4), (48, 57, .st 185), (65, 90, .st 185)],
  /- 185 -/ [(32, 32, .tr 4), (48, 57, .st 186), (65, 90, .st 186)],
  /- 186 -/ [(32, 32, .tr 4), (48, 57, .st 187), (65, 90, .st 187)],
  /- 187 -/ [(32, 32, .tr 4), (48, 57, .st 188), (65, 90, .st 188)],
  /- 188 -/ [(32, 32, .tr 4), (48, 57, .st 189), (65, 90, .st 189)],
  /- 189 -/ [(32, 32, .tr 4), (48, 57, .st 190), (65, 90, .st 190)],
  /- 190 -/ [(32, 32, .tr 4), (48, 57, .st 191), (65, 90, .st 191)],
  /- 191 -/ [(32, 32, .tr 4), (48, 57, .st 192), (65, 90, .st 192)],
  /- 192 -/ [(32, 32, .tr 4), (48, 57, .st 193), (65, 90, .st 193)],
  /- 193 -/ [(32, 32, .tr 4)],
  /- 194 -/ [(45, 46, .st 195), (48, 57, .st 195), (65, 90, .st 195), (97, 122, .st 195)],
  /- 195 -/ [(9, 13, .tr 224), (32, 32, .tr 224), (45, 46, .st 195), (47, 47, .tr 224),
     (48, 57, .st 195), (62, 62, .tr 224), (65, 90, .st 195), (97, 122, .st 195)],
  /- 196 -/ [(0, 61, .st 196), (62, 62, .st 197), (63, 255, .st 196)],
  /- 197 -/ [(0, 0, .tr 227), (1, 61, .st 196), (62, 62, .st 197), (63, 255, .st 196)],
  /- 198 -/ [(32, 32, .tr 228), (33, 33, .st 202), (36, 36, .st 202), (37, 37, .st 203),
     (38, 46, .st 202), (47, 47, .st 208), (48, 57, .st 202), (59, 59, .st 202),
     (61, 61, .st 202), (64, 90, .st 202), (95, 95, .st 202), (97, 122, .st 202),
     (126, 126, .st 202)],
  /- 199 -/ [(123, 123, .tr 232)]]

def rows4 : List Row := [
  /- 200 -/ [(0, 124, .st 200), (125, 125, .st 201), (126, 255, .st 200)],
  /- 201 -/ [(0, 0, .tr 235), (1, 124, .st 200), (125, 125, .st 201), (126, 255, .st 200)],
  /- 202 -/ [(32, 32, .tr 228), (33, 33, .st 202), (36, 36, .st 202), (37, 37, .st 203),
     (38, 46, .st 202), (47, 47, .st 205), (48, 57, .st 202), (59, 59, .st 202),
     (61, 61, .st 202), (64, 90, .st 202), (95, 95, .st 202), (97, 122, .st 202),
     (126, 126, .st 202)],
  /- 203 -/ [(48, 57, .st 204), (65, 70, .st 204), (97, 102, .st 204)],
  /- 204 -/ [(48, 57, .st 202), (65, 70, .st 202), (97, 102, .st 202)],
  /- 205 -/ [(32, 32, .tr 228), (33, 33, .st 205), (36, 36, .st 205), (37, 37, .st 206),
     (38, 59, .st 205), (61, 61, .st 205), (64, 90, .st 205), (95, 95, .st 205),
     (97, 122, .st 205), (126, 126, .st 205), (128, 255, .st 205)],
  /- 206 -/ [(48, 57, .st 207), (65, 70, .st 207), (97, 102, .st 207)],
  /- 207 -/ [(48, 57, .st 205), (65, 70, .st 205), (97, 102, .st 205)],
  /- 208 -/ [(32, 32, .tr 228), (33, 33, .st 205), (36, 36, .st 205), (37, 37, .st 206),
     (38, 46, .st 205), (47, 47, .st 209), (48, 59, .st 205), (61, 61, .st 205),
     (64, 90, .st 205), (95, 95, .st 205), (97, 122, .st 205), (126, 126, .st 205),
     (128, 255, .st 205)],
  /- 209 -/ [(32, 32, .tr 228), (33, 33, .st 210), (36, 36, .st 210), (37, 37, .st 211),
     (38, 46, .st 210), (47, 47, .st 205), (48, 57, .st 210), (58, 58, .st 213),
     (59, 59, .st 210), (61, 61, .st 210), (64, 64, .st 217), (65, 90, .st 210),
     (91, 91, .st 222), (95, 95, .st 210), (97, 122, .st 210), (126, 126, .st 210)],
  /- 210 -/ [(32, 32, .tr 228), (33, 33, .st 210), (36, 36, .st 210), (37, 37, .st 211),
     (38, 46, .st 210), (47, 47, .st 205), (48, 57, .st 210), (58, 58, .st 213),
     (59, 59, .st 210), (61, 61, .st 210), (64, 64, .st 217), (65, 90, .st 210),
     (95, 95, .st 210), (97, 122, .st 210), (126, 126, .st 210)],
  /- 211 -/ [(48, 57, .st 212), (65, 70, .st 212), (97, 102, .st 212)],
  /- 212 -/ [(48, 57, .st 210), (65, 70, .st 210), (97, 102, .st 210)],
  /- 213 -/ [(32, 32, .tr 228), (33, 33, .st 214), (36, 36, .st 214), (37, 37, .st 215),
     (38, 46, .st 214), (47, 47, .st 205), (48, 57, .st 213), (58, 59, .st 214),
     (61, 61, .st 214), (64, 64, .st 217), (65, 90, .st 214), (95, 95, .st 214),
     (97, 122, .st 214), (126, 126, .st 214)],
  /- 214 -/ [(33, 33, .st 214), (36, 36, .st 214), (37, 37, .st 215), (38, 46, .st 214),
     (48, 59, .st 214), (61, 61, .st 214), (64, 64, .st 217), (65, 90, .st 214),
     (95, 95, .st 214), (97, 122, .st 214), (126, 126, .st 214)],
  /- 215 -/ [(48, 57, .st 216), (65, 70, .st 216), (97, 102, .st 216)],
  /- 216 -/ [(48, 57, .st 214), (65, 70, .st 214), (97, 102, .st 214)],
  /- 217 -/ [(32, 32, .tr 228), (33, 33, .st 218), (36, 36, .st 218), (37, 37, .st 219),
     (38, 46, .st 218), (47, 47, .st 205), (48, 57, .st 218), (58, 58, .st 221),
     (59, 59, .st 218), (61, 61, .st 218), (65, 90, .st 218), (91, 91, .st 222),
     (95, 95, .st 218), (97, 122, .st 218), (126, 126, .st 218)],
  /- 218 -/ [(32, 32, .tr 228), (33, 33, .st 218), (36, 36, .st 218), (37, 37, .st 219),
     (38, 46, .st 218), (47, 47, .st 205), (48, 57, .st 218), (58, 58, .st 221),
     (59, 59, .st 218), (61, 61, .st 218), (65, 90, .st 218), (95, 95, .st 218),
     (97, 122, .st 218), (126, 126, .st 218)],
  /- 219 -/ [(48, 57, .st 220), (65, 70, .st 220), (97, 102, .st 220)],
  /- 220 -/ [(48, 57, .st 218), (65, 70, .st 218), (97, 102, .st 218)],
  /- 221 -/ [(32, 32, .tr 228), (47, 47, .st 205), (48, 57, .st 221)],
  /- 222 -/ [(6, 6, .st 223), (48, 57, .st 266), (58, 58, .st 342), (65, 70, .st 266),
     (97, 102, .st 266), (118, 118, .st 344)],
  /- 223 -/ [(48, 57, .st 224), (65, 70, .st 224), (97, 102, .st 224)],
  /- 224 -/ [(48, 57, .st 225), (58, 58, .st 228), (65, 70, .st 225), (97, 102, .st 225)],
  /- 225 -/ [(48, 57, .st 226), (58, 58, .st 228), (65, 70, .st 226), (97, 102, .st 226)],
  /- 226 -/ [(48, 57, .st 227), (58, 58, .st 228), (65, 70, .st 227), (97, 102, .st 227)],
  /- 227 -/ [(58, 58, .st 228)],
  /- 228 -/ [(48, 48, .st 229), (49, 49, .st 259), (50, 50, .st 262), (51, 57, .st 229),
     (65, 70, .st 265), (97, 102, .st 265)],
  /- 229 -/ [(46, 46, .st 230), (48, 57, .st 252), (58, 58, .st 255), (65, 70, .st 252),
     (97, 102, .st 252)],
  /- 230 -/ [(48, 48, .st 231), (49, 49, .st 247), (50, 50, .st 249), (51, 57, .st 231)],
  /- 231 -/ [(46, 46, .st 232)],
  /- 232 -/ [(48, 48, .st 233), (49, 49, .st 242), (50, 50, .st 244), (51, 57, .st 233)],
  /- 233 -/ [(46, 46, .st 234)],
  /- 234 -/ [(48, 48, .st 235), (49, 49, .st 237), (50, 50, .st 239), (51, 57, .st 235)],
  /- 235 -/ [(93, 93, .st 236)],
  /- 236 -/ [(32, 32, .tr 228), (47, 47, .st 205), (58, 58, .st 221)],
  /- 237 -/ [(48, 57, .st 238), (93, 93, .st 236)],
  /- 238 -/ [(48, 57, .st 235), (93, 93, .st 236)],
  /- 239 -/ [(48, 48, .st 240), (53, 53, .st 241), (93, 93, .st 236)],
  /- 240 -/ [(48, 57, .st 235)],
  /- 241 -/ [(48, 48, .st 235)],
  /- 242 -/ [(46, 46, .st 234), (48, 57, .st 243)],
  /- 243 -/ [(46, 46, .st 234), (48, 57, .st 233)],
  /- 244 -/ [(46, 46, .st 234), (48, 48, .st 245), (53, 53, .st 246)],
  /- 245 -/ [(48, 57, .st 233)],
  /- 246 -/ [(48, 48, .st 233)],
  /- 247 -/ [(46, 46, .st 232), (48, 57, .st 248)],
  /- 248 -/ [(46, 46, .st 232), (48, 57, .st 231)],
  /- 249 -/ [(46, 46, .st 232), (48, 48, .st 250), (53, 53, .st 251)]]

def rows5 : List Row := [
  /- 250 -/ [(48, 57, .st 231)],
  /- 251 -/ [(48, 48, .st 231)],
  /- 252 -/ [(48, 57, .st 253), (58, 58, .st 255), (65, 70, .st 253), (97, 102, .st 253)],
  /- 253 -/ [(48, 57, .st 254), (58, 58, .st 255), (65, 70, .st 254), (97, 102, .st 254)],
  /- 254 -/ [(58, 58, .st 255)],
  /- 255 -/ [(48, 57, .st 256), (65, 70, .st 256), (97, 102, .st 256)],
  /- 256 -/ [(48, 57, .st 257), (65, 70, .st 257), (93, 93, .st 236), (97, 102, .st 257)],
  /- 257 -/ [(48, 57, .st 258), (65, 70, .st 258), (93, 93, .st 236), (97, 102, .st 258)],
  /- 258 -/ [(48, 57, .st 235), (65, 70, .st 235), (93, 93, .st 236), (97, 102, .st 235)],
  /- 259 -/ [(46, 46, .st 230), (48, 57, .st 260), (58, 58, .st 255), (65, 70, .st 252),
     (97, 102, .st 252)],
  /- 260 -/ [(46, 46, .st 230), (48, 57, .st 261), (58, 58, .st 255), (65, 70, .st 253),
     (97, 102, .st 253)],
  /- 261 -/ [(46, 46, .st 230), (48, 57, .st 254), (58, 58, .st 255), (65, 70, .st 254),
     (97, 102, .st 254)],
  /- 262 -/ [(46, 46, .st 230), (48, 48, .st 263), (49, 52, .st 252), (53, 53, .st 264),
     (54, 57, .st 252), (58, 58, .st 255), (65, 70, .st 252), (97, 102, .st 252)],
  /- 263 -/ [(48, 57, .st 261), (58, 58, .st 255), (65, 70, .st 253), (97, 102, .st 253)],
  /- 264 -/ [(48, 48, .st 261), (49, 57, .st 253), (58, 58, .st 255), (65, 70, .st 253),
     (97, 102, .st 253)],
  /- 265 -/ [(48, 57, .st 252), (58, 58, .st 255), (65, 70, .st 252), (97, 102, .st 252)],
  /- 266 -/ [(48, 57, .st 267), (58, 58, .st 270), (65, 70, .st 267), (97, 102, .st 267)],
  /- 267 -/ [(48, 57, .st 268), (58, 58, .st 270), (65, 70, .st 268), (97, 102, .st 268)],
  /- 268 -/ [(48, 57, .st 269), (58, 58, .st 270), (65, 70, .st 269), (97, 102, .st 269)],
  /- 269 -/ [(58, 58, .st 270)],
  /- 270 -/ [(48, 57, .st 271), (58, 58, .st 341), (65, 70, .st 271), (97, 102, .st 271)],
  /- 271 -/ [(48, 57, .st 272), (58, 58, .st 275), (65, 70, .st 272), (97, 102, .st 272)],
  /- 272 -/ [(48, 57, .st 273), (58, 58, .st 275), (65, 70, .st 273), (97, 102, .st 273)],
  /- 273 -/ [(48, 57, .st 274), (58, 58, .st 275), (65, 70, .st 274), (97, 102, .st 274)],
  /- 274 -/ [(58, 58, .st 275)],
  /- 275 -/ [(48, 57, .st 276), (58, 58, .st 340), (65, 70, .st 276), (97, 102, .st 276)],
  /- 276 -/ [(48, 57, .st 277), (58, 58, .st 280), (65, 70, .st 277), (97, 102, .st 277)],
  /- 277 -/ [(48, 57, .st 278), (58, 58, .st 280), (65, 70, .st 278), (97, 102, .st 278)],
  /- 278 -/ [(48, 57, .st 279), (58, 58, .st 280), (65, 70, .st 279), (97, 102, .st 279)],
  /- 279 -/ [(58, 58, .st 280)],
  /- 280 -/ [(48, 57, .st 281), (58, 58, .st 339), (65, 70, .st 281), (97, 102, .st 281)],
  /- 281 -/ [(48, 57, .st 282), (58, 58, .st 285), (65, 70, .st 282), (97, 102, .st 282)],
  /- 282 -/ [(48, 57, .st 283), (58, 58, .st 285), (65, 70, .st 283), (97, 102, .st 283)],
  /- 283 -/ [(48, 57, .st 284), (58, 58, .st 285), (65, 70, .st 284), (97, 102, .st 284)],
  /- 284 -/ [(58, 58, .st 285)],
  /- 285 -/ [(48, 57, .st 286), (58, 58, .st 338), (65, 70, .st 286), (97, 102, .st 286)],
  /- 286 -/ [(48, 57, .st 287), (58, 58, .st 290), (65, 70, .st 287), (97, 102, .st 287)],
  /- 287 -/ [(48, 57, .st 288), (58, 58, .st 290), (65, 70, .st 288), (97, 102, .st 288)],
  /- 288 -/ [(48, 57, .st 289), (58, 58, .st 290), (65, 70, .st 289), (97, 102, .st 289)],
  /- 289 -/ [(58, 58, .st 290)],
  /- 290 -/ [(48, 57, .st 291), (58, 58, .st 326), (65, 70, .st 291), (97, 102, .st 291)],
  /- 291 -/ [(48, 57, .st 292), (58, 58, .st 295), (65, 70, .st 292), (97, 102, .st 292)],
  /- 292 -/ [(48, 57, .st 293), (58, 58, .st 295), (65, 70, .st 293), (97, 102, .st 293)],
  /- 293 -/ [(48, 57, .st 294), (58, 58, .st 295), (65, 70, .st 294), (97, 102, .st 294)],
  /- 294 -/ [(58, 58, .st 295)],
  /- 295 -/ [(48, 57, .st 296), (58, 58, .st 325), (65, 70, .st 296), (97, 102, .st 296)],
  /- 296 -/ [(48, 57, .st 297), (58, 58, .st 300), (65, 70, .st 297), (97, 102, .st 297)],
  /- 297 -/ [(48, 57, .st 298), (58, 58, .st 300), (65, 70, .st 298), (97, 102, .st 298)],
  /- 298 -/ [(48, 57, .st 299), (58, 58, .st 300), (65, 70, .st 299), (97, 102, .st 299)],
  /- 299 -/ [(58, 58, .st 300)]]

def rows6 : List Row := [
  /- 300 -/ [(48, 57, .st 296), (58, 58, .st 301), (65, 70, .st 296), (97, 102, .st 296)],
  /- 301 -/ [(2, 3, .st 223), (48, 48, .st 302), (49, 49, .st 318), (50, 50, .st 321),
     (51, 57, .st 302), (65, 70, .st 324), (93, 93, .st 236), (97, 102, .st 324)],
  /- 302 -/ [(46, 46, .st 230), (48, 57, .st 303), (58, 58, .st 306), (65, 70, .st 303),
     (93, 93, .st 236), (97, 102, .st 303)],
  /- 303 -/ [(48, 57, .st 304), (58, 58, .st 306), (65, 70, .st 304), (93, 93, .st 236),
     (97, 102, .st 304)],
  /- 304 -/ [(48, 57, .st 305), (58, 58, .st 306), (65, 70, .st 305), (93, 93, .st 236),
     (97, 102, .st 305)],
  /- 305 -/ [(58, 58, .st 306), (93, 93, .st 236)],
  /- 306 -/ [(48, 48, .st 307), (49, 49, .st 311), (50, 50, .st 314), (51, 57, .st 307),
     (65, 70, .st 317), (97, 102, .st 317)],
  /- 307 -/ [(46, 46, .st 230), (48, 57, .st 308), (58, 58, .st 255), (65, 70, .st 308),
     (93, 93, .st 236), (97, 102, .st 308)],
  /- 308 -/ [(48, 57, .st 309), (58, 58, .st 255), (65, 70, .st 309), (93, 93, .st 236),
     (97, 102, .st 309)],
  /- 309 -/ [(48, 57, .st 310), (58, 58, .st 255), (65, 70, .st 310), (93, 93, .st 236),
     (97, 102, .st 310)],
  /- 310 -/ [(58, 58, .st 255), (93, 93, .st 236)],
  /- 311 -/ [(46, 46, .st 230), (48, 57, .st 312), (58, 58, .st 255), (65, 70, .st 308),
     (93, 93, .st 236), (97, 102, .st 308)],
  /- 312 -/ [(46, 46, .st 230), (48, 57, .st 313), (58, 58, .st 255), (65, 70, .st 309),
     (93, 93, .st 236), (97, 102, .st 309)],
  /- 313 -/ [(46, 46, .st 230), (48, 57, .st 310), (58, 58, .st 255), (65, 70, .st 310),
     (93, 93, .st 236), (97, 102, .st 310)],
  /- 314 -/ [(46, 46, .st 230), (48, 48, .st 315), (49, 52, .st 308), (53, 53, .st 316),
     (54, 57, .st 308), (58, 58, .st 255), (65, 70, .st 308), (93, 93, .st 236),
     (97, 102, .st 308)],
  /- 315 -/ [(48, 57, .st 313), (58, 58, .st 255), (65, 70, .st 309), (93, 93, .st 236),
     (97, 102, .st 309)],
  /- 316 -/ [(48, 48, .st 313), (49, 57, .st 309), (58, 58, .st 255), (65, 70, .st 309),
     (93, 93, .st 236), (97, 102, .st 309)],
  /- 317 -/ [(48, 57, .st 308), (58, 58, .st 255), (65, 70, .st 308), (93, 93, .st 236),
     (97, 102, .st 308)],
  /- 318 -/ [(46, 46, .st 230), (48, 57, .st 319), (58, 58, .st 306), (65, 70, .st 303),
     (93, 93, .st 236), (97, 102, .st 303)],
  /- 319 -/ [(46, 46, .st 230), (48, 57, .st 320), (58, 58, .st 306), (65, 70, .st 304),
     (93, 93, .st 236), (97, 102, .st 304)],
  /- 320 -/ [(46, 46, .st 230), (48, 57, .st 305), (58, 58, .st 306), (65, 70, .st 305),
     (93, 93, .st 236), (97, 102, .st 305)],
  /- 321 -/ [(46, 46, .st 230), (48, 48, .st 322), (49, 52, .st 303), (53, 53, .st 323),
     (54, 57, .st 303), (58, 58, .st 306), (65, 70, .st 303), (93, 93, .st 236),
     (97, 102, .st 303)],
  /- 322 -/ [(48, 57, .st 320), (58, 58, .st 306), (65, 70, .st 304), (93, 93, .st 236),
     (97, 102, .st 304)],
  /- 323 -/ [(48, 48, .st 320), (49, 57, .st 304), (58, 58, .st 306), (65, 70, .st 304),
     (93, 93, .st 236), (97, 102, .st 304)],
  /- 324 -/ [(48, 57, .st 303), (58, 58, .st 306), (65, 70, .st 303), (93, 93, .st 236),
     (97, 102, .st 303)],
  /- 325 -/ [(2, 3, .st 223), (48, 48, .st 302), (49, 49, .st 318), (50, 50, .st 321),
     (51, 57, .st 302), (65, 70, .st 324), (97, 102, .st 324)],
  /- 326 -/ [(2, 3, .st 223), (48, 48, .st 327), (49, 49, .st 331), (50, 50, .st 334),
     (51, 57, .st 327), (65, 70, .st 337), (97, 102, .st 337)],
  /- 327 -/ [(46, 46, .st 230), (48, 57, .st 328), (58, 58, .st 306), (65, 70, .st 328),
     (97, 102, .st 328)],
  /- 328 -/ [(48, 57, .st 329), (58, 58, .st 306), (65, 70, .st 329), (97, 102, .st 329)],
  /- 329 -/ [(48, 57, .st 330), (58, 58, .st 306), (65, 70, .st 330), (97, 102, .st 330)],
  /- 330 -/ [(58, 58, .st 306)],
  /- 331 -/ [(46, 46, .st 230), (48, 57, .st 332), (58, 58, .st 306), (65, 70, .st 328),
     (97, 102, .st 328)],
  /- 332 -/ [(46, 46, .st 230), (48, 57, .st 333), (58, 58, .st 306), (65, 70, .st 329),
     (97, 102, .st 329)],
  /- 333 -/ [(46, 46, .st 230), (48, 57, .st 330), (58, 58, .st 306), (65, 70, .st 330),
     (97, 102, .st 330)],
  /- 334 -/ [(46, 46, .st 230), (48, 48, .st 335), (49, 52, .st 328), (53, 53, .st 336),
     (54, 57, .st 328), (58, 58, .st 306), (65, 70, .st 328), (97, 102, .st 328)],
  /- 335 -/ [(48, 57, .st 333), (58, 58, .st 306), (65, 70, .st 329), (97, 102, .st 329)],
  /- 336 -/ [(48, 48, .st 333), (49, 57, .st 329), (58, 58, .st 306), (65, 70, .st 329),
     (97, 102, .st 329)],
  /- 337 -/ [(48, 57, .st 328), (58, 58, .st 306), (65, 70, .st 328), (97, 102, .st 328)],
  /- 338 -/ [(2, 3, .st 223), (48, 57, .st 224), (65, 70, .st 224), (97, 102, .st 224)],
  /- 339 -/ [(2, 3, .st 223)],
  /- 340 -/ [(3, 3, .st 223)],
  /- 341 -/ [(4, 4, .st 223)],
  /- 342 -/ [(58, 58, .st 343)],
  /- 343 -/ [(2, 5, .st 223), (48, 48, .st 302), (49, 49, .st 318), (50, 50, .st 321),
     (51, 57, .st 302), (65, 70, .st 324), (93, 93, .st 236), (97, 102, .st 324)],
  /- 344 -/ [(48, 57, .st 345), (65, 70, .st 345), (97, 102, .st 345)],
  /- 345 -/ [(46, 46, .st 346), (48, 57, .st 345), (65, 70, .st 345), (97, 102, .st 345)],
  /- 346 -/ [(33, 33, .st 347), (36, 36, .st 347), (38, 46, .st 347), (48, 59, .st 347),
     (61, 61, .st 347), (65, 90, .st 347), (95, 95, .st 347), (97, 122, .st 347),
     (126, 126, .st 347)],
  /- 347 -/ [(33, 33, .st 347), (36, 36, .st 347), (38, 46, .st 347), (48, 59, .st 347),
     (61, 61, .st 347), (65, 90, .st 347), (93, 93, .st 236), (95, 95, .st 347),
     (97, 122, .st 347), (126, 126, .st 347)],
  /- 348 -/ [(1, 8, .st 14), (10, 31, .st 14), (33, 33, .st 14), (35, 39, .st 14),
     (42, 43, .st 14), (45, 46, .st 14), (48, 57, .st 14), (58, 58, .tr 27), (65, 90, .st 14),
     (94, 122, .st 14), (124, 124, .st 14), (126, 126, .st 14)],
  /- 349 -/ []]

def rows : List Row := rows0 ++ rows1 ++ rows2 ++ rows3 ++ rows4 ++ rows5 ++ rows6

/-- The states that ask for `uri_relaxed`: there the delimiters for which it
    counts are treated as `!`. -/
def relaxedStates : List Nat :=
  [3, 19, 20, 21, 26, 29, 30, 33, 34, 35, 38, 39, 42, 43, 171, 172, 173, 174, 198, 202, 205,
   208, 209, 210, 213, 214, 217, 218, 346, 347]

def lookup (s c : Nat) : Option Goto :=
  ((rows.getD s []).find? fun e => e.1 ≤ c && c ≤ e.2.1).map fun e => e.2.2

def goto (uri_relaxed : Bool) (s : Nat) (c : UInt8) : Option Goto :=
  if uri_relaxed && relaxedStates.contains s && [94, 123, 125].contains c.toNat then lookup s 33
  else lookup s c.toNat

def step (uri_relaxed : Bool) (s : Nat) (c : UInt8) : Step Nat Action :=
  match goto uri_relaxed s c with
  | none         => .fail http_parser_error
  | some (.st n) => .next n []
  | some (.tr k) => tr k

/-! ## Section 3: What the table shows -/

/-- A transition goes on to a state that is neither the error state nor final,
    or ends in a final one; the method is only reported in front of a blank. -/
def sound (e : Nat × Nat × Goto) : Bool :=
  match e.2.2 with
  | .st n => 0 < n && n < http_parser_first_final
  | .tr k =>
    match tr k with
    | .next t acts =>
      0 < t && t < http_parser_first_final &&
        (!acts.contains request_method || e.1 == 32 && e.2.1 == 32)
    | .last t acts => http_parser_first_final ≤ t && !acts.contains request_method
    | .fail _ => false

theorem rows_sound : ∀ row ∈ rows, ∀ e ∈ row, sound e = true := by
  decide +kernel

/-- What a row says of a byte. -/
theorem lookup_sound {s c : Nat} {g : Goto} (h : lookup s c = some g) :
    ∃ lo hi, lo ≤ c ∧ c ≤ hi ∧ sound (lo, hi, g) = true := by
  obtain ⟨e, he, rfl⟩ := Option.map_eq_some_iff.mp h
  have hrange := List.find?_some he
  have hmem := List.mem_of_find?_eq_some he
  rw [Bool.and_eq_true, decide_eq_true_iff, decide_eq_true_iff] at hrange
  refine ⟨e.1, e.2.1, hrange.1, hrange.2, ?_⟩
  by_cases hs : s < rows.length
  · rw [List.getD_eq_getElem _ _ hs] at hmem
    exact rows_sound _ (List.getElem_mem hs) e hmem
  · rw [List.getD_eq_default _ _ (Nat.not_lt.mp hs)] at hmem
    cases hmem

/-- Where a byte leads, with or without `uri_relaxed`. -/
theorem goto_sound {uri_relaxed : Bool} {s : Nat} {c : UInt8} {g : Goto}
    (h : goto uri_relaxed s c = some g) :
    ∃ lo hi, (lo = 32 → hi = 32 → c = 32) ∧ sound (lo, hi, g) = true := by
  unfold goto at h
  split at h
  · -- treated as `!`
    obtain ⟨lo, hi, hlo, hhi, hsound⟩ := lookup_sound h
    exact ⟨lo, hi, fun hlo' hhi' => by omega, hsound⟩
  · obtain ⟨lo, hi, hlo, hhi, hsound⟩ := lookup_sound h
    refine ⟨lo, hi, fun hlo' hhi' => ?_, hsound⟩
    have hc : c.toNat = 32 := by omega
    exact UInt8.toNat_inj.mp hc

/-- What a step can do. -/
theorem step_cases (uri_relaxed : Bool) (s : Nat) (c : UInt8) :
    (∃ t acts, step uri_relaxed s c = .next t acts ∧ 0 < t ∧ t < http_parser_first_final ∧
      (request_method ∈ acts → c = 32)) ∨
    (∃ t acts, step uri_relaxed s c = .last t acts ∧ http_parser_first_final ≤ t ∧
      request_method ∉ acts) ∨
    step uri_relaxed s c = .fail http_parser_error := by
  unfold step
  cases hgoto : goto uri_relaxed s c with
  | none => exact Or.inr (Or.inr rfl)
  | some g =>
    obtain ⟨lo, hi, hblank, hsound⟩ := goto_sound hgoto
    cases g with
    | st n =>
      simp only [sound, Bool.and_eq_true, decide_eq_true_iff] at hsound
      exact Or.inl ⟨n, [], rfl, hsound.1, hsound.2, fun hmem => nomatch hmem⟩
    | tr k =>
      simp only [sound] at hsound ⊢
      cases htr : tr k with
      | next t acts =>
        simp only [htr, Bool.and_eq_true, Bool.or_eq_true, decide_eq_true_iff, beq_iff_eq,
          Bool.not_eq_true', List.contains_eq_mem, decide_eq_false_iff_not] at hsound
        obtain ⟨⟨hpos, hlt⟩, hmethod⟩ := hsound
        refine Or.inl ⟨t, acts, rfl, hpos, hlt, fun hmem => ?_⟩
        rcases hmethod with hnot | ⟨hlo, hhi⟩
        · exact absurd hmem hnot
        · exact hblank hlo hhi
      | last t acts =>
        simp only [htr, Bool.and_eq_true, decide_eq_true_iff, Bool.not_eq_true',
          List.contains_eq_mem, decide_eq_false_iff_not] at hsound
        exact Or.inr (Or.inl ⟨t, acts, rfl, hsound.1, hsound.2⟩)
      | fail t =>
        rw [htr] at hsound
        cases hsound

end HttpParser

end Http

end MNSER
