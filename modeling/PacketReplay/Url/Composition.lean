set_option autoImplicit false

namespace PacketReplay.Domain

/-- The pairs of characters that make one, packed: for each first character its distance from the
one before, one less than the number of its pairs, and for each pair the second character and the
composed one. -/
def composedPacked : String :=
  "y10uPkp800uPWp800uPlp82FWOW6XOX6YOY6ZOZ6aOW8cOY8dOcHeOa6fOYr7gOb6iOjElOWGnOYGZPWr7bPWm7ePa8" ++
  "02dOYm7ZPam7nPcm704XOc8YOe8dOg8iOi8dPd605dOgm7iOk8ZPim7dPmm7jPom7nPkm70GWOe6XOf6YOg6ZOyr7aO" ++
  "o8cOq8dOs8eOh6fOwr7iOw8lOaGnOcGZPur7dPeHePu8jPum7mPwm700dO-m706XOqFYOy8aOWn7cO-8dOW9iOcFdPY" ++
  "906YOa9dOYn7eOcn7iO-GZPan7dPen7kPgn70EWOi6XOj6YOk6ZOe9aOg9cOi9dOm9eOl6fOes7iOlElOeGnOgGZPgs" ++
  "7ePk9mPin700YOq904XOmn7iOeFZPon7dPs9nPqn705XOv9iOz9ZPsn7dPx9jPyn7nPwn702XO-n7dOWo7ZPYo708WO" ++
  "uFXOZAZOn6dOao7iOdAZPco7dPbAjPgo7nPeo70FWOo6XOp6YOq6ZOr6aOiAcOkAdOkHeOs6fOks7hOmAiOnElOiGnO" ++
  "kGxOWDZPis7ePgF01XOqo7dOso717XOqAdOuo7iOuAlOmGnOoGZPwo7dPsAnP-o706XOwAYOyAdOWp7iOWBZPYp7cPu" ++
  "GdP-A06dOgp7iOaBZPip7cPwGdPYBjPmp7nPkp70IWOv6XOw6YOx6ZOeBaOgBcOiBeOy6fOct7gOkBhOmBiOpElOqGn" ++
  "OsGxOlDZPat7aPop7ePoBjPsp7mPqp701ZOyp7ZP-p705WOWq7XOYq7YOqBdOcq7eOaq7ZPeq701dOgq7eOiq708WOo" ++
  "t7XOz6YOsBZOut7aOoHdOkq7eOuBfOst7ZPqt705XOvBYOmq7dOxBiOzBZPoq7nPqq76FWOW7XOX7YOY7ZOZ7aOX8cO" ++
  "Z8dOdHeOa7fOZr7gOb7iOkElOXGnOZGZPXr7bPXm7ePb802dOZm7ZPbm7nPdm704XOd8YOf8dOh8iOj8dPd705dOhm7" ++
  "iOl8ZPjm7dPnm7jPpm7nPlm70GWOe7XOf7YOg7ZOzr7aOp8cOr8dOt8eOh7fOxr7iOx8lObGnOdGZPvr7dPfHePv8jP" ++
  "vm7mPxm700dO_m706XOrFYOz8aOXn7cO_8dOX9iOdFdPZ907YOb9dOZn7eOdn7iO_GZPbn7dPfn7kPhn7nPsq70DWOi" ++
  "7XOj7YOk7ZOf9aOh9cOj9eOl7fOfs7iOmElOfGnOhGZPhs7ePl9mPjn701YOr9iOmF04XOnn7iOfFZPpn7dPt9nPrn7" ++
  "05XOw9iO-9ZPtn7dPy9jPzn7nPxn702XO_n7dOXo7ZPZo708WOvFXOaAZOn7dObo7iOeAZPdo7dPcAjPho7nPfo70FW" ++
  "Oo7XOp7YOq7ZOr7aOjAcOlAdOlHeOs7fOls7hOnAiOoElOjGnOlGxOXDZPjs7ePhF01XOro7dOto717XOrAdOvo7iOv" ++
  "AlOnGnOpGZPxo7dPtAnP_o706XOxAYOzAdOXp7iOXBZPZp7cPvGdP_A07dOhp7eOtq7iObBZPjp7cPxGdPZBjPnp7nP" ++
  "lp70IWOv7XOw7YOx7ZOfBaOhBcOjBeOy7fOdt7gOlBhOnBiOqElOrGnOtGxOmDZPbt7aPpp7ePpBjPtp7mPrp701ZOz" ++
  "p7ZP_p706WOXq7XOZq7YOrBdOdq7eObq7gOuq7ZPfq701dOhq7eOjq709WOpt7XOz7YOtBZOvt7aOpHdOlq7eO_7fOt" ++
  "t7gOvq7ZPrt705XOwBYOnq7dOyBiO-BZPpq7nPrq7j12WOj_7XObSYQX-7P3WOcr7XOar7ZOgr7fOer710aO-E00XOw" ++
  "F01XOyFaOYF00XOem723WOWs7XO-r7ZOas7fOYs740XOkn743WOos7XOms7ZOss7fOqs702XOio7aOiHeOko700aOgH" ++
  "10XO-F33WOxEXOtEaOrEiOvE53WOdr7XObr7ZOhr7fOfr710aO_E00XOxF01XOzFaOZF00XOfm723WOXs7XO_r7ZObs" ++
  "7fOZs740XOln743WOps7XOns7ZOts7fOrs702XOjo7aOjHeOlo700aOhH10XO_F33WOyEXOuEaOsEiOwE53WOmr7XOk" ++
  "r7ZOqr7fOor703WOnr7XOlr7ZOrr7fOpr7E1WOqm7XOsm701WOrm7XOtm7u11WOmo7XOoo701WOno7XOpo7C0dOap70" ++
  "0dObp740dOcp700dOdp760XOup700XOvp700eOwp700eOxp7J0dOxq7W14WOys7XOws7ZOWt7fO-s7ZPYt704WOzs7X" ++
  "Oxs7ZOXt7fO_s7ZPZt7D4WOgt7XOet7ZOkt7fOit7ZPmt704WOht7XOft7ZOlt7fOjt7ZPnt760iOkFo10aOiF00aOj" ++
  "Fw10aOWF00aOXF00cOym700cOzm740aOmH00aOnHY30iOlF-76WOwz7XOcSaOvz7cOuz7pOeu7qOfu7bQyz733WOe-7" ++
  "XOeSpOuu7qOvu714WOg-7XOfSpOev7qOfv7bQi-716WOw-7XOgSaOv-7cOu-7eOgTpOuv7qOvv753WOu_7XOiSpOew7" ++
  "qOfw710qOi_735WOg_7XOkSaOf_7cOe_7eOhTqOvw734WOw_7XOlSpOex7qOfx7bQy_720bQqz710bQa-727WOmx7XO" ++
  "iTaOnz7cOmz7pOWu7qOXu7YQsz7bQpz733WOox7XOjTpOmu7qOnu715WOqx7XOkTpOWv7qOXv7YQc-7bQZ-717WOsx7" ++
  "XOlTaOn-7cOm-7eOgUpOmv7qOnv7YQs-753WOux7XOiUpOWw7qOXw711pOa_7qOb_737WOwx7XOjUaOX_7cOW_7eOhU" ++
  "pOmw7qOnw7YQc_735WOyx7XOkUpOWx7qOXx7YQs_7bQp_702WOo-7XOmSYQt-702WOY_7XOmTYQd_720bQq_731XOpU" ++
  "eOqUp10eOdW191cOmc1eOoc120XOZW112WOWW1cOsc1eOXW101cOXc1eOyc100eO-c103WOjW1aOYd1cOvW1eOad110" ++
  "XOiW130eOcd143aOkd1cOkW1eOmd1hOod130eOqd130eOud110eOid121cOnc1eOpc120XOpY112WOmY1cOtc1eOnY1" ++
  "01cOYc1eOzc100eO_c103WOzY1aOZd1cOvX1eObd110XOyY130eOdd143aOld1cO-Y1eOnd1hOpd130eOrd130eOvd1" ++
  "10eOjd180eOtY1T0lOsZ100lOtZ1Y30eOwc100eOxc1E0eOgd100eOhd1z92po1Yn1qo1Zn1ro1bn1W10qo1an110qo" ++
  "1cn1s30qo1Ys1G0qo1ps120qo1Ws1oI0yf2ff270yf2nf220yf2qf2p41-j2hk2tk2ik2_B2-v2hw2sw2ew2tw2iw2g" ++
  "20t-2qy2p11-z2g-2t-2i-200-z2h-2-30sY3eY3u30rc3Wc362Yc3gc3rc3dc3sc3ec330rc3hc3x31-f3gg3tg3ig" ++
  "300-f3hg3n42gk3wk3lk3yk3_k3-k320gk3zk3eI0kX4cX4_s20rv6cu610rv6eu610rv6gu610rv6iu610rv6ku630" ++
  "rv6ou6e10rv6xv610rv6zv610rv6Ww600rv6Xw620rv6Zw6pN0aOun700aOvn7Y10aOyo700aOzo760dOep700dOfp7" ++
  "y11YOir7cOsr701YOjr7cOtr7M0YOcs700YOds7I0YOus700YOvs7o13WOYu7XOau7YQcu7bQWy703WOZu7XObu7YQd" ++
  "u7bQXy700bQYy700bQZy700bQay700bQby700bQcy700bQdy703WOgu7XOiu7YQku7bQey703WOhu7XOju7YQlu7bQf" ++
  "y700bQgy700bQhy700bQiy700bQjy700bQky700bQly701WOou7XOqu701WOpu7XOru761WOwu7XOyu701WOxu7XOzu" ++
  "763WOYv7XOav7YQcv7bQmy703WOZv7XObv7YQdv7bQny700bQoy700bQpy700bQqy700bQry700bQsy700bQty703WO" ++
  "gv7XOiv7YQkv7bQuy703WOhv7XOjv7YQlv7bQvy700bQwy700bQxy700bQyy700bQzy700bQ-y700bQ_y702WOov7XO" ++
  "qv7YQsv702WOpv7XOrv7YQtv762WOwv7XOyv7YQ-v702WOxv7XOzv7YQ_v761WOYw7XOaw701WOZw7XObw761WOgw7X" ++
  "Oiw701WOhw7XOjw762WOow7XOqw7YQsw702WOpw7XOrw7YQtw772WOxw7XOzw7YQ_w763WOYx7XOax7YQcx7bQWz703" ++
  "WOZx7XObx7YQdx7bQXz700bQYz700bQZz700bQaz700bQbz700bQcz700bQdz703WOgx7XOix7YQkx7bQez703WOhx7" ++
  "XOjx7YQlx7bQfz700bQgz700bQhz700bQiz700bQjz700bQkz700bQlz700bQoz730bQY-770bQo_7v10bQtz782WOj" ++
  "-7XOk-7YQl-760bQd-7l10bQt_772WOz-7XO--7YQ_-7nC0uPwi810uPxi810uPkj8x10uPjk810uPlk810uPkk8k10" ++
  "uPam840uPfm820uPim8N0uPan810uPcn8M0uPXo860uPao810uPdo820uPfo840uPjp8J0uPYp820uPmp800uPnp8C0" ++
  "uPqp800uPrp820uPup800uPvp820uPWq800uPXq800uPWt800uPXt840uPaq800uPbq820uPeq800uPfq890uPYt800" ++
  "uPZt8F0uPir850uPjr800uPkr810uPlr860uPgt800uPht800uPit800uPjt8mi30vaCqaC40vaCiYC10vaCkYC10va" ++
  "CmYC10vaCoYC10vaCqYC10vaCsYC10vaCuYC10vaCwYC10vaCyYC10vaC-YC10vaCWZC10vaCYZC20vaCbZC10vaCdZ" ++
  "C10vaCfZC61vaCmZCwaCnZC21vaCpZCwaCqZC21vaCsZCwaCtZC21vaCvZCwaCwZC21vaCyZCwaCzZCX10vaC-aC80v" ++
  "aCqdC40vaCibC10vaCkbC10vaCmbC10vaCobC10vaCqbC10vaCsbC10vaCubC10vaCwbC10vaCybC10vaC-bC10vaCW" ++
  "cC10vaCYcC20vaCbcC10vaCdcC10vaCfcC61vaCmcCwaCncC21vaCpcCwaCqcC21vaCscCwaCtcC21vaCvcCwaCwcC2" ++
  "1vaCycCwaCzcCJ0vaCtdC00vaCudC00vaCvdC00vaCwdCA0vaC-dCqcr10dOfkX270dOalX2-r20wba2waa210wba2y" ++
  "aa290wba2hba2h40dfa2kfa200dfa2lfa2qG1-va2hwa2twa2iwa2w10f-a2Zya210xza2bya260Y-a2kya240f-a2n" ++
  "ya2n12uza2d-a2Y-a2b-a2f-a2e-a2s72mbb2ybb2wbb2xbb2zbb2-bb2-70ljb2wjb200ljb2xjb2xR0mfc2ufc2e_" ++
  "H3-eu2Xfu2_eu2Zfu2Wfu2bfu2ffu2Yfu221_eu2cfu2Wfu2efu200_eu2dfu260_eu2afu2vX30dhx2fhx230dhx2e" ++
  "hx210dhx2ghx2"

/-- The marks, packed: for each range of them its distance from the end of the range before, one
less than its size, and the place of its marks in the order. -/
def markOrderPacked : String :=
  "WOKc700e703y600e700u604y601g603y601g60Ay604103y607c700m700c702y602c701y612c703y600c700e701y" ++
  "600c700f701g700f701g700f70Cc7p84c7f80y603c700y602c700-600y605c705y601c700y601c700-600a700c7" ++
  "00A00B00C00D00E00F00G00H00I01J00K00L00M10N10O00P10c700y610Ie27c700U00V00W1m10R00S00T00U00V0" ++
  "0W100X100Y101c701y604c700y601c700y6G0Z1b36c723c700y600c721c710y601c700y6Z10a1U0c700y601c700" ++
  "y601c702y600c701y600c700y602c700y600c700y600c700y600c700y601c7W56c700y600c790y6O3c718c712c7" ++
  "14c7h12y6y10c702y603c7g14c704y60Dc710y601c700y601c700y602c702y600R00S00T02c700y601c701y604c" ++
  "7y107G0930c700y601c7d307G09m10c7z107G09k307G09k307G09_309k307G0970q200x2b307G09j319G09y309j" ++
  "31d3009D3h3i31s3009D3w3i21y6R0y610y610u6t10X400Y410a453Y420Y411c700911c7-10y6m307119o20y6lM" ++
  "2c7qT19U09z409A0c7h60a7l40-600c700y6x60c700y6d209K7c720y6m14c705y601c700y611y601c701y604c70" ++
  "0y603c7b307F09c10c700y606c7s119w107B19Z207u42c710104y601c703y600c716140y660c731c7c61c700y60" ++
  "6c700y601c700g700s600y600g60a1c700e701a700y600w600c700f700y600c700y6mM1c701103c702101c740c7" ++
  "31100c700y600c701103y600c7-_22c7j409W3Vc7gH0w600a700e700-601W7f318qkT0c749c7W11c7m21c7q809b" ++
  "109t409RHc7v12y6b109_207C09l70c711c700y621c751c710c7q109s709mvJ0QXO6c706y601c7jU0y6Y70y6r44" ++
  "c7oq10y610c7e10c700100y6409b50c700y6zH3c7ZC1c7v41y602c700y600c703y6n10c700y600c700y6W609f10" ++
  "9E09v109007b22c7m119-107i209907g309007o507009m217G09O6c734c7j609307N0c7Z309007x709007-309s3" ++
  "09007p309j809007Y819407y409p209I09n209bD09Y807119n209ugJ41x16c7vb116ibJ01cc51u602130Y704u68" ++
  "7y624c701y6U3c7q42c7xj36c71Gc726c711c714c7b86c7tB0c7z13c7Wl16y6j35c7007"

end PacketReplay.Domain
