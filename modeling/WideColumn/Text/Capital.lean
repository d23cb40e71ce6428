import WideColumn.Text.Lower

/-!
# Capitals

The capitals of Unicode 14. Nearly every small letter is the lower-case form of its capital, so that
the runs of capitals can be read backwards; where several capitals share a small letter, the first
is meant. The other letters are listed here, often with several code points as their capital.
-/
namespace WideColumn.CodePoint

/-- Letters whose capital the runs do not give, with their capitals. -/
def farCapitals : List (Nat × List Nat) := [
  (181, [924]), (223, [83, 83]), (305, [73]), (329, [700, 78]), (383, [83]), (453, [452]),
  (456, [455]), (459, [458]), (496, [74, 780]), (498, [497]), (837, [921]), (912, [921, 776, 769]),
  (944, [933, 776, 769]), (962, [931]), (976, [914]), (977, [920]), (981, [934]), (982, [928]),
  (1008, [922]), (1009, [929]), (1013, [917]), (1415, [1333, 1362]), (7296, [1042]), (7297, [1044]),
  (7298, [1054]), (7299, [1057]), (7300, [1058]), (7301, [1058]), (7302, [1066]), (7303, [1122]),
  (7304, [42570]), (7830, [72, 817]), (7831, [84, 776]), (7832, [87, 778]), (7833, [89, 778]),
  (7834, [65, 702]), (7835, [7776]), (8016, [933, 787]), (8018, [933, 787, 768]),
  (8020, [933, 787, 769]), (8022, [933, 787, 834]), (8064, [7944, 921]), (8065, [7945, 921]),
  (8066, [7946, 921]), (8067, [7947, 921]), (8068, [7948, 921]), (8069, [7949, 921]),
  (8070, [7950, 921]), (8071, [7951, 921]), (8072, [7944, 921]), (8073, [7945, 921]),
  (8074, [7946, 921]), (8075, [7947, 921]), (8076, [7948, 921]), (8077, [7949, 921]),
  (8078, [7950, 921]), (8079, [7951, 921]), (8080, [7976, 921]), (8081, [7977, 921]),
  (8082, [7978, 921]), (8083, [7979, 921]), (8084, [7980, 921]), (8085, [7981, 921]),
  (8086, [7982, 921]), (8087, [7983, 921]), (8088, [7976, 921]), (8089, [7977, 921]),
  (8090, [7978, 921]), (8091, [7979, 921]), (8092, [7980, 921]), (8093, [7981, 921]),
  (8094, [7982, 921]), (8095, [7983, 921]), (8096, [8040, 921]), (8097, [8041, 921]),
  (8098, [8042, 921]), (8099, [8043, 921]), (8100, [8044, 921]), (8101, [8045, 921]),
  (8102, [8046, 921]), (8103, [8047, 921]), (8104, [8040, 921]), (8105, [8041, 921]),
  (8106, [8042, 921]), (8107, [8043, 921]), (8108, [8044, 921]), (8109, [8045, 921]),
  (8110, [8046, 921]), (8111, [8047, 921]), (8114, [8122, 921]), (8115, [913, 921]),
  (8116, [902, 921]), (8118, [913, 834]), (8119, [913, 834, 921]), (8124, [913, 921]),
  (8126, [921]), (8130, [8138, 921]), (8131, [919, 921]), (8132, [905, 921]), (8134, [919, 834]),
  (8135, [919, 834, 921]), (8140, [919, 921]), (8146, [921, 776, 768]), (8147, [921, 776, 769]),
  (8150, [921, 834]), (8151, [921, 776, 834]), (8162, [933, 776, 768]), (8163, [933, 776, 769]),
  (8164, [929, 787]), (8166, [933, 834]), (8167, [933, 776, 834]), (8178, [8186, 921]),
  (8179, [937, 921]), (8180, [911, 921]), (8182, [937, 834]), (8183, [937, 834, 921]),
  (8188, [937, 921]), (64256, [70, 70]), (64257, [70, 73]), (64258, [70, 76]),
  (64259, [70, 70, 73]), (64260, [70, 70, 76]), (64261, [83, 84]), (64262, [83, 84]),
  (64275, [1348, 1350]), (64276, [1348, 1333]), (64277, [1348, 1339]), (64278, [1358, 1350]),
  (64279, [1348, 1341])]

/-- The capital of a code point; a code point that is no small letter is its own. -/
def capital (c : CodePoint) : Text :=
  match farCapitals.lookup c.val with
  | some letters => letters.map ofNat
  | none =>
    let from? (run : LowerRun) : Option CodePoint :=
      let origin := (c.val - run.distance).toNat
      if run.first ≤ origin ∧ origin ≤ run.last ∧ (origin - run.first) % run.stride = 0 then
        some (ofNat origin)
      else none
    [(lowerRuns.findSome? from?).getD c]

end WideColumn.CodePoint

namespace WideColumn.Text

/-- The capitals of a text. -/
def upper (text : Text) : Text := text.flatMap CodePoint.capital

end WideColumn.Text
